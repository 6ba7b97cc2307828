import TabPruning.Config

namespace TabPruning

structure LogRecord where
  level   : LogLevel
  message : String
  deriving DecidableEq, Repr

namespace LogRecord

def warn (s : String) : LogRecord :=
  ⟨.warn, s⟩

def info (s : String) : LogRecord :=
  ⟨.info, s⟩

def debug (s : String) : LogRecord :=
  ⟨.debug, s⟩

end LogRecord

def LogLevel.color : LogLevel → String
  | error => "1;31"
  | warn  => "1;33"
  | info  => "1;32"
  | debug => "1;36"
  | trace => "1;35"

-- Labels are padded to the width of the widest.
def LogLevel.paddedLabel (l : LogLevel) : String :=
  l.label ++ String.ofList (List.replicate (5 - l.label.length) ' ')

-- One coloured line, without its line feed; `time` is the time of day to show.
def LogRecord.render (r : LogRecord) (time : String) : String :=
  "\x1b[" ++ r.level.color ++ "m" ++ time ++ " " ++ r.level.paddedLabel ++ " " ++ r.message ++
    "\x1b[0m"

end TabPruning
