import TabPruning.Marker
import TabPruning.Text.Unicode

namespace TabPruning

inductive WriteMode
  -- The destination itself is emptied and written.
  | inPlace
  -- A new file is written beside the destination and then put in its place.
  | atomic
  deriving DecidableEq, Repr

-- From the most severe level to the most talkative one.
inductive LogLevel
  | error
  | warn
  | info
  | debug
  | trace
  deriving DecidableEq, Repr

namespace LogLevel

def all : List LogLevel :=
  [error, warn, info, debug, trace]

def name : LogLevel → String
  | error => "error"
  | warn  => "warn"
  | info  => "info"
  | debug => "debug"
  | trace => "trace"

def label : LogLevel → String
  | error => "ERROR"
  | warn  => "WARN"
  | info  => "INFO"
  | debug => "DEBUG"
  | trace => "TRACE"

def ofName? (s : String) : Option LogLevel :=
  all.find? (·.name = s)

theorem ofName?_name (l : LogLevel) : ofName? l.name = some l := by
  cases l <;> rfl

def verbosity : LogLevel → Nat
  | error => 1
  | warn  => 2
  | info  => 3
  | debug => 4
  | trace => 5

-- A record of this level is logged where the given level is the most talkative one allowed.
def allowedBy (l threshold : LogLevel) : Bool :=
  l.verbosity ≤ threshold.verbosity

end LogLevel

namespace WriteMode

def all : List WriteMode :=
  [inPlace, atomic]

def name : WriteMode → String
  | inPlace => "inplace"
  | atomic  => "atomic"

def ofName? (s : String) : Option WriteMode :=
  all.find? (·.name = s)

theorem ofName?_name (m : WriteMode) : ofName? m.name = some m := by
  cases m <;> rfl

end WriteMode

structure OutputConfig where
  writeMode : WriteMode := .atomic
  dryRun    : Bool      := false
  deriving DecidableEq, Repr

-- The fields that only the removable tabs used.
def defaultFields : List String :=
  ["nps_delay_hours", "nps_reminder_days", "nps_auto_send",
   "email_from_name", "email_reply_to", "custom_domain"]

structure Config where
  markers  : List Marker  := Marker.all
  fields   : List String  := defaultFields
  output   : OutputConfig := {}
  logLevel : LogLevel     := .info
  deriving DecidableEq, Repr

namespace Config

inductive Defect
  | noMarkers
  | blankField
  | notBareField (name : String)
  | repeatedField (name : String)
  deriving DecidableEq, Repr

def Defect.message : Defect → String
  | noMarkers       => "at least one marker is required"
  | blankField      => "field pattern names must not be empty"
  | notBareField s  => s!"field pattern '{s}' must be a bare identifier"
  | repeatedField s => s!"field pattern '{s}' is listed more than once"

-- A field name holds no white space and no colon.
def isBare (name : String) : Bool :=
  name.toList.all fun c => !isBlank c && c != ':'

def fieldDefect? (seen : List String) : List String → Option Defect
  | []            => none
  | name :: names =>
    if name.toList.all isBlank then some .blankField
    else if !isBare name then some (.notBareField name)
    else if name ∈ seen then some (.repeatedField name)
    else fieldDefect? (name :: seen) names

-- The first defect: of the markers, then of the fields in their order.
def defect? (c : Config) : Option Defect :=
  if c.markers = [] then some .noMarkers else fieldDefect? [] c.fields

end Config

-- Settings given for one run, which take precedence over those of the file.
structure Overrides where
  markers  : List Marker     := []
  fields   : List String     := []
  dryRun   : Bool            := false
  inPlace  : Bool            := false
  logLevel : Option LogLevel := none
  deriving DecidableEq, Repr

-- Lists replace those of the settings unless they are empty; the flags can only be raised.
def Config.override (c : Config) (o : Overrides) : Config where
  markers  := if o.markers = [] then c.markers else o.markers
  fields   := if o.fields = [] then c.fields else o.fields
  output   := {
    writeMode := if o.inPlace then .inPlace else c.output.writeMode
    dryRun    := o.dryRun || c.output.dryRun
  }
  logLevel := o.logLevel.getD c.logLevel

end TabPruning
