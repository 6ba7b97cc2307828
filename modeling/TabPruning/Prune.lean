import TabPruning.Field
import TabPruning.Log

namespace TabPruning

structure Outcome where
  text     : String
  log      : BlockLog
  removals : List FieldRemoval
  deriving DecidableEq, Repr

namespace FieldRemoval

-- Numbers the removal as in the document whose lines these indices are.
def renumber (sources : Array Nat) (r : FieldRemoval) : FieldRemoval :=
  match sources[r.line - 1]? with
  | some index => { r with line := index + 1 }
  | none       => r

end FieldRemoval

namespace Config

def detector (c : Config) : Detector :=
  .ofMarkers c.markers

def excise (c : Config) (text : String) : Excision :=
  (Document.ofText text.toList).excise c.detector

-- The remaining lines are joined and split again, so that a document without lines has one empty
-- line when the fields are looked for.
def strip (c : Config) (e : Excision) : Stripping :=
  (Document.ofText (Document.toText e.lines)).strip c.fields

def prune (c : Config) (text : String) : Outcome :=
  let e := c.excise text
  let s := c.strip e
  let sources := e.sources.toArray
  ⟨String.ofList s.toText, e.log, s.removals.map (·.renumber sources)⟩

end Config

-- What pruning says about itself while it runs.
def Block.record (b : Block) : LogRecord :=
  .debug (s!"Marker '{b.marker.tabName}' at line {b.firstLine}, " ++
    s!"block ends at line {b.lastLine} (closed: {b.closed})")

def Excision.records (e : Excision) : List LogRecord :=
  e.log.blocks.map Block.record

-- One record per pass, with the number of declarations it removed.
def strippingRecords (fields : List String) (ls : List NumberedLine) : List LogRecord :=
  match fields with
  | []              => []
  | field :: fields =>
    let s := stripField field ls
    .debug s!"Field '{field}': {s.removals.length} declaration(s) removed" ::
      strippingRecords fields s.kept

def Document.strippingRecords (d : Document) (fields : List String) : List LogRecord :=
  TabPruning.strippingRecords fields d.numbered

def Config.pruningRecords (c : Config) (text : String) : List LogRecord :=
  let d := Document.ofText text.toList
  let e := d.excise c.detector
  e.records ++
  [.debug s!"Rewrite kept {e.kept.length} of {d.length} lines ({e.log.length} block(s) removed)"] ++
  (Document.ofText (Document.toText e.lines)).strippingRecords c.fields

end TabPruning
