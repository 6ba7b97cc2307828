namespace TabPruning.CommandLine

inductive Switch
  | output
  | marker
  | field
  | dryRun
  | inPlace
  | configPath
  | logLevel
  | force
  | help
  | version
  deriving DecidableEq, Repr

namespace Switch

def long : Switch → String
  | output     => "output"
  | marker     => "marker"
  | field      => "field"
  | dryRun     => "dry-run"
  | inPlace    => "in-place"
  | configPath => "config-path"
  | logLevel   => "log-level"
  | force      => "force"
  | help       => "help"
  | version    => "version"

def short? : Switch → Option Char
  | output     => some 'o'
  | marker     => some 'm'
  | field      => some 'F'
  | dryRun     => some 'n'
  | inPlace    => none
  | configPath => some 'c'
  | logLevel   => some 'l'
  | force      => some 'f'
  | help       => some 'h'
  | version    => some 'V'

def takesValue : Switch → Bool
  | output | marker | field | configPath | logLevel => true
  | dryRun | inPlace | force | help | version       => false

end Switch

-- What one or two arguments say.
inductive Item
  | flag (s : Switch)
  | setting (s : Switch) (value : String)
  | operand (text : String)
  -- An unknown option, a value where none belongs, or none where one does.
  | unusable
  deriving DecidableEq, Repr

-- An argument that starts with a dash is no value, unless it is the dash alone.
def isValue (arg : String) : Bool :=
  match arg.toList with
  | '-' :: _ :: _ => false
  | _             => true

-- A group of one-letter options: what they say, and the last of them if its value is still to
-- come.
def group (allowed : List Switch) : List Char → List Item × Option Switch
  | []      => ([], none)
  | c :: cs =>
    match allowed.find? (·.short? = some c) with
    | none   => ([.unusable], none)
    | some s =>
      if s.takesValue then
        match cs with
        | []          => ([], some s)
        | '=' :: rest => ([.setting s (String.ofList rest)], none)
        | rest        => ([.setting s (String.ofList rest)], none)
      else
        let (items, pending) := group allowed cs
        (.flag s :: items, pending)

-- A long option without its dashes: what it says, or the option if its value is still to come.
def longOption (allowed : List Switch) (cs : List Char) : List Item × Option Switch :=
  let name := cs.takeWhile (· ≠ '=')
  match allowed.find? (·.long.toList = name), cs.dropWhile (· ≠ '=') with
  | none, _        => ([.unusable], none)
  | some s, []     => if s.takesValue then ([], some s) else ([.flag s], none)
  | some s, _ :: v =>
    if s.takesValue then ([.setting s (String.ofList v)], none) else ([.unusable], none)

def readArgument (allowed : List Switch) (arg : String) : List Item × Option Switch :=
  match arg.toList with
  | '-' :: '-' :: cs => longOption allowed cs
  | '-' :: c :: cs   => group allowed (c :: cs)
  | _                => ([.operand arg], none)

-- Two dashes alone end the options.
def readArguments (allowed : List Switch) : List String → List Item
  | []          => []
  | arg :: args =>
    if arg = "--" then args.map .operand
    else
      match readArgument allowed arg with
      | (items, none)   => items ++ readArguments allowed args
      | (items, some s) =>
        match args with
        | []            => items ++ [.unusable]
        | value :: args =>
          if isValue value then items ++ .setting s value :: readArguments allowed args
          else items ++ [.unusable]

end TabPruning.CommandLine
