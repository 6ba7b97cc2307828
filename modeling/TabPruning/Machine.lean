import TabPruning.Files.Tree
import TabPruning.Host

namespace TabPruning

structure Machine where
  tree             : FileTree
  workingDirectory : Place
  threshold        : LogLevel := .info
  journal          : List LogRecord := []

namespace Machine

def workingPath (s : Machine) : String :=
  "/" ++ "/".intercalate s.workingDirectory.reverse

def readText (s : Machine) (path : String) : Except FileFault String :=
  s.tree.readText s.workingDirectory path

def exists? (s : Machine) (path : String) : Bool :=
  s.tree.exists? s.workingDirectory path

def write (s : Machine) (mode : WriteMode) (path text : String) :
    Except FileFault Unit × Machine :=
  match mode with
  | .inPlace =>
    match s.tree.overwrite s.workingDirectory path text.toUTF8 with
    | .ok tree => (.ok (), { s with tree })
    | .error f => (.error f, s)
  | .atomic  =>
    let (result, tree) := s.tree.replace s.workingDirectory s.workingPath path text.toUTF8
    (result, { s with tree })

def log (s : Machine) (r : LogRecord) : Machine :=
  if r.level.allowedBy s.threshold then { s with journal := s.journal ++ [r] } else s

end Machine

abbrev MachineM := StateM Machine

instance : Host MachineM where
  readText path s := (s.readText path, s)
  exists? path s := (s.exists? path, s)
  write mode path text s := s.write mode path text
  setThreshold l s := ((), { s with threshold := l })
  log r s := ((), s.log r)

end TabPruning
