import TabPruning.Config
import TabPruning.Json.Decoder
import TabPruning.Json.Printer

namespace TabPruning

namespace OutputConfig

def toJson (o : OutputConfig) : Json :=
  .object [
    ("write_mode".toList, .string o.writeMode.name.toList),
    ("dry_run".toList, .bool o.dryRun)
  ]

-- The fields that have been read.
structure Draft where
  writeMode : Option WriteMode := none
  dryRun    : Option Bool      := none

def Draft.complete (d : Draft) : OutputConfig where
  writeMode := d.writeMode.getD .atomic
  dryRun    := d.dryRun.getD false

def writeModeField : Json.Field Draft where
  key := "write_mode"
  filled d := d.writeMode.isSome
  fill s := do
    let r ← Json.Scanner.enumeration WriteMode.ofName? (WriteMode.all.map WriteMode.name) s
    return r.map fun m d => { d with writeMode := some m }

def dryRunField : Json.Field Draft where
  key := "dry_run"
  filled d := d.dryRun.isSome
  fill s := do
    let r ← Json.Scanner.bool s
    return r.map fun b d => { d with dryRun := some b }

def schema : Json.Record Draft where
  name := "struct OutputConfig"
  fields := [writeModeField, dryRunField]

def scan : Json.Scanner OutputConfig := fun s => do
  let r ← schema.scan {} s
  return r.map Draft.complete

end OutputConfig

namespace Config

def toJson (c : Config) : Json :=
  .object [
    ("markers".toList, .list (c.markers.map (.string ·.tabName.toList))),
    ("field_patterns".toList, .list (c.fields.map (.string ·.toList))),
    ("output".toList, c.output.toJson),
    ("log_level".toList, .string c.logLevel.name.toList)
  ]

def toText (c : Config) : String :=
  String.ofList (c.toJson.print 0)

-- The fields that have been read.
structure Draft where
  markers  : Option (List Marker)  := none
  fields   : Option (List String)  := none
  output   : Option OutputConfig   := none
  logLevel : Option LogLevel       := none

def Draft.complete (d : Draft) : Config where
  markers  := d.markers.getD Marker.all
  fields   := d.fields.getD defaultFields
  output   := d.output.getD {}
  logLevel := d.logLevel.getD .info

def markersField : Json.Field Draft where
  key := "markers"
  filled d := d.markers.isSome
  fill s := do
    let marker := Json.Scanner.enumeration Marker.ofTabName? (Marker.all.map Marker.tabName)
    let r ← Json.Scanner.list marker s
    return r.map fun ms d => { d with markers := some ms }

def fieldsField : Json.Field Draft where
  key := "field_patterns"
  filled d := d.fields.isSome
  fill s := do
    let r ← Json.Scanner.list (Json.Scanner.string "a string") s
    return r.map fun names d => { d with fields := some names }

def outputField : Json.Field Draft where
  key := "output"
  filled d := d.output.isSome
  fill s := do
    let r ← OutputConfig.scan s
    return r.map fun o d => { d with output := some o }

def logLevelField : Json.Field Draft where
  key := "log_level"
  filled d := d.logLevel.isSome
  fill s := do
    let r ← Json.Scanner.enumeration LogLevel.ofName? (LogLevel.all.map LogLevel.name) s
    return r.map fun l d => { d with logLevel := some l }

def schema : Json.Record Draft where
  name := "struct Config"
  fields := [markersField, fieldsField, outputField, logLevelField]

def scan : Json.Scanner Config := fun s => do
  let r ← schema.scan {} s
  return r.map Draft.complete

def ofText (text : String) : Except Json.Fault Config :=
  Json.Scanner.document scan text.toList

end Config

end TabPruning
