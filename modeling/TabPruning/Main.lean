import Std.Time.Zoned
import TabPruning.CommandLine.Program

namespace TabPruning

-- The threshold of the log, for the whole run.
abbrev Terminal := ReaderT (IO.Ref LogLevel) IO

namespace Terminal

def digits (width n : Nat) : String :=
  let s := toString n
  "".pushn '0' (width - s.length) ++ s

def timeOfDay : IO String := do
  let ms := (← Std.Time.PlainTime.now).toMilliseconds.toInt.toNat
  let s := ms / 1000
  let clock := [s / 3600, s / 60 % 60, s % 60].map (digits 2)
  return ":".intercalate clock ++ "." ++ digits 3 (ms % 1000)

-- The system's words for an error, with its number.
def errorText (details : String) (code : UInt32) : FileFault :=
  match code.toNat with
  | 2  => .noSuchFile
  | 16 => .busy
  | 20 => .notDirectory
  | 21 => .isDirectory
  | 40 => .tooManyLinks
  | n  => .other s!"{details} (os error {n})"

def faultOf : IO.Error → FileFault
  | .alreadyExists _ code s         => errorText s code
  | .otherError code s              => errorText s code
  | .resourceBusy code s            => errorText s code
  | .resourceVanished code s        => errorText s code
  | .unsupportedOperation code s    => errorText s code
  | .hardwareFault code s           => errorText s code
  | .unsatisfiedConstraints code s  => errorText s code
  | .illegalOperation code s        => errorText s code
  | .protocolError code s           => errorText s code
  | .timeExpired code s             => errorText s code
  | .interrupted _ code s           => errorText s code
  | .noFileOrDirectory _ code s     => errorText s code
  | .invalidArgument _ code s       => errorText s code
  | .permissionDenied _ code s      => errorText s code
  | .resourceExhausted _ code s     => errorText s code
  | .inappropriateType _ code s     => errorText s code
  | .noSuchThing _ code s           => errorText s code
  | .unexpectedEof                  => .other "unexpected end of file"
  | .userError s                    => .other s

def attempt (job : IO α) : IO (Except FileFault α) := do
  match ← job.toBaseIO with
  | .ok a    => return .ok a
  | .error e => return .error (faultOf e)

def readText (path : String) : IO (Except FileFault String) := do
  match ← attempt (do (← IO.FS.Handle.mk path .read).readBinToEnd) with
  | .error f  => return .error f
  | .ok bytes =>
    match String.fromUTF8? bytes with
    | some s => return .ok s
    | none   => return .error .notText

def pathLeads (path : String) : IO Bool := do
  return (← (IO.FS.realPath path).toBaseIO).toBool

-- Writes a new file beside the destination and moves it there; it does not stay if that fails. The
-- mode of a file is not known here, so a replaced destination gets that of a new file.
def replace (path text : String) : IO (Except FileFault Unit) := do
  let base := Path.join (← IO.currentDir).toString (Path.directory path)
  let name := Path.join base (".tmp" ++ digits 6 (← IO.rand 0 999999))
  match ← attempt (IO.FS.Handle.mk name .writeNew) with
  | .error f => return .error (.atPath f name)
  | .ok file =>
    let job : IO Unit := do
      if !(← pathLeads path) then
        IO.setAccessRights name ⟨⟨true, true, false⟩, {}, {}⟩
      file.putStr text
      file.flush
      IO.FS.rename name path
    match ← attempt job with
    | .ok ()   => return .ok ()
    | .error f =>
      discard (attempt (IO.FS.removeFile name))
      return .error f

instance : Host Terminal where
  readText path := readText path
  exists? path := pathLeads path
  write mode path text :=
    match mode with
    | .inPlace => attempt (IO.FS.writeBinFile path text.toUTF8)
    | .atomic  => replace path text
  setThreshold l := do (← read).set l
  log r := do
    if r.level.allowedBy (← (← read).get) then
      IO.eprintln (r.render (← timeOfDay))

end Terminal

end TabPruning

def main (args : List String) : IO UInt32 := do
  let threshold ← IO.mkRef TabPruning.LogLevel.info
  let ending ← (TabPruning.CommandLine.run (m := TabPruning.Terminal) args).run threshold
  IO.print ending.output
  IO.eprint ending.complaint
  return ending.exitCode.toUInt32
