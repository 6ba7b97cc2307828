import TabPruning.CommandLine.Option
import TabPruning.Config

namespace TabPruning.CommandLine

def defaultConfigPath : String :=
  "tabprune.json"

-- The options of pruning; those with a single value are given at most once.
structure PruneOptions where
  input      : Option String   := none
  output     : Option String   := none
  configPath : Option String   := none
  overrides  : Overrides       := {}
  deriving DecidableEq, Repr

inductive Shell
  | bash
  | elvish
  | fish
  | powershell
  | zsh
  deriving DecidableEq, Repr

namespace Shell

def all : List Shell :=
  [bash, elvish, fish, powershell, zsh]

def name : Shell → String
  | bash       => "bash"
  | elvish     => "elvish"
  | fish       => "fish"
  | powershell => "powershell"
  | zsh        => "zsh"

def ofName? (s : String) : Option Shell :=
  all.find? (·.name = s)

end Shell

inductive Command
  | prune (options : PruneOptions)
  | initConfig (path : String) (force : Bool)
  | completions (shell : Shell)
  deriving DecidableEq, Repr

-- Why no command was read.
inductive Interruption
  | usage
  | help
  | version
  deriving DecidableEq, Repr

def once (old : Option α) (new : α) : Except Interruption (Option α) :=
  if old.isSome then .error .usage else .ok (some new)

def raise (old : Bool) : Except Interruption Bool :=
  if old then .error .usage else .ok true

def pathValue (text : String) : Except Interruption String :=
  if text = "" then .error .usage else .ok text

def namedValue (ofName? : String → Option α) (text : String) : Except Interruption α :=
  match ofName? text with
  | some a => .ok a
  | none   => .error .usage

namespace PruneOptions

def add (o : PruneOptions) : Item → Except Interruption PruneOptions
  | .operand text             => do
    return { o with input := ← once o.input (← pathValue text) }
  | .setting .output text     => do
    return { o with output := ← once o.output (← pathValue text) }
  | .setting .configPath text => do
    return { o with configPath := ← once o.configPath text }
  | .setting .marker text     => do
    let m ← namedValue Marker.ofTabName? text
    return { o with overrides.markers := o.overrides.markers ++ [m] }
  | .setting .field text      =>
    .ok { o with overrides.fields := o.overrides.fields ++ [text] }
  | .setting .logLevel text   => do
    let l ← namedValue LogLevel.ofName? text
    return { o with overrides.logLevel := ← once o.overrides.logLevel l }
  | .flag .dryRun             => do
    return { o with overrides.dryRun := ← raise o.overrides.dryRun }
  | .flag .inPlace            => do
    return { o with overrides.inPlace := ← raise o.overrides.inPlace }
  | .flag .help               => .error .help
  | .flag .version            => .error .version
  | _                         => .error .usage

-- The options that pruning has, named or not.
def switches : List Switch :=
  [.output, .marker, .field, .dryRun, .inPlace, .configPath, .logLevel, .help]

def ofArguments (allowed : List Switch) (args : List String) : Except Interruption PruneOptions :=
  (readArguments allowed args).foldlM add {}

end PruneOptions

-- The path and the force flag of the command that writes the default settings.
def addInitOption (o : Option String × Bool) : Item → Except Interruption (Option String × Bool)
  | .setting .configPath text => do return (← once o.1 text, o.2)
  | .flag .force              => do return (o.1, ← raise o.2)
  | .flag .help               => .error .help
  | _                         => .error .usage

def addShell (o : Option Shell) : Item → Except Interruption (Option Shell)
  | .operand text => do once o (← namedValue Shell.ofName? text)
  | .flag .help   => .error .help
  | _             => .error .usage

def commandNames : List String :=
  ["prune", "init-config", "completions", "help"]

namespace Command

-- Pruning by its name needs an input; without it, a missing input is found out later.
def ofArguments (args : List String) : Except Interruption Command :=
  match args with
  | "prune" :: args       => do
    let o ← PruneOptions.ofArguments PruneOptions.switches args
    if o.input.isNone then throw .usage
    return .prune o
  | "init-config" :: args => do
    let (path, force) ← (readArguments [.configPath, .force, .help] args).foldlM addInitOption
      (none, false)
    return .initConfig (path.getD defaultConfigPath) force
  | "completions" :: args => do
    match ← (readArguments [.help] args).foldlM addShell none with
    | some shell => return .completions shell
    | none       => throw .usage
  | ["help"]              => .error .help
  | ["help", name]        => if name ∈ commandNames then .error .help else .error .usage
  | "help" :: _           => .error .usage
  | args                  => do
    return .prune (← PruneOptions.ofArguments (PruneOptions.switches ++ [.version]) args)

end Command

end TabPruning.CommandLine
