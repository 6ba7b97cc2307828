import TabPruning.Config.Json
import TabPruning.Files.Tree
import TabPruning.Log

namespace TabPruning

inductive PruneError
  | sourceUnavailable (path : String) (fault : FileFault)
  | destinationUnwritable (path : String) (fault : FileFault)
  | startOutOfRange (start length : Nat)
  | invalidConfig (reason : String)
  | configUnparsable (path : String) (fault : Json.Fault)

namespace PruneError

def message : PruneError → String
  | sourceUnavailable p f     => s!"Source unavailable: {quoted p}: {f.message}"
  | destinationUnwritable p f => s!"Destination unwritable: {quoted p}: {f.message}"
  | startOutOfRange s n       => s!"Block start {s} is outside the document ({n} lines)"
  | invalidConfig reason      => s!"Invalid configuration: {reason}"
  | configUnparsable p f      => s!"Failed to parse config file {quoted p}: {f.message}"

-- The fault below it, if there is one.
def origin? : PruneError → Option String
  | sourceUnavailable _ f     => some f.message
  | destinationUnwritable _ f => some f.message
  | startOutOfRange ..        => none
  | invalidConfig _           => none
  | configUnparsable _ f      => some f.message

end PruneError

inductive Cause
  | pruning (e : PruneError)
  | file (f : FileFault)
  | plain (text : String)

namespace Cause

def texts : Cause → List String
  | pruning e  => e.message :: e.origin?.toList
  | file f     => [f.message]
  | plain text => [text]

def message : Cause → String
  | pruning e  => e.message
  | file f     => f.message
  | plain text => text

end Cause

-- The outermost context comes first.
structure Failure where
  contexts : List String := []
  cause    : Cause

namespace Failure

def ofError (e : PruneError) : Failure :=
  { cause := .pruning e }

def plain (text : String) : Failure :=
  { cause := .plain text }

def within (f : Failure) (context : String) : Failure :=
  { f with contexts := context :: f.contexts }

def message (f : Failure) : String :=
  f.contexts.head?.getD f.cause.message

-- From the outermost context to the root of the matter.
def chain (f : Failure) : List String :=
  f.contexts ++ f.cause.texts

def error? (f : Failure) : Option PruneError :=
  match f.cause with
  | .pruning e => some e
  | _          => none

-- Lines after the first are indented.
def indent (width : Nat) (text : String) : String :=
  String.ofList
    (text.toList.flatMap fun c => if c = '\n' then c :: List.replicate width ' ' else [c])

-- A single cause stands for itself; several are numbered from zero.
def listCauses : List String → String
  | []      => ""
  | [cause] => "\n\nCaused by:\n    " ++ indent 4 cause
  | causes  =>
    "\n\nCaused by:" ++ String.join (causes.zipIdx.map fun (cause, i) =>
      "\n" ++ "".pushn ' ' (5 - (toString i).length) ++ toString i ++ ": " ++ indent 7 cause)

def report (f : Failure) : String :=
  match f.chain with
  | []              => "Error: "
  | first :: causes => "Error: " ++ first ++ listCauses causes

end Failure

-- How the application classes a failure.
inductive AppError
  | file (text : String)
  | pruning (e : PruneError)
  | unknown (text : String)

namespace AppError

def message : AppError → String
  | file text    => s!"File error: {text}"
  | pruning e    => s!"Prune error: {e.message}"
  | unknown text => s!"Unknown error: {text}"

def ofFault (f : FileFault) : AppError :=
  .file f.message

-- A fault of pruning is found below any contexts; anything else keeps its outermost text.
def ofFailure (f : Failure) : AppError :=
  match f.error? with
  | some e => .pruning e
  | none   => .unknown f.message

end AppError

end TabPruning
