import TabPruning.Files.Path
import TabPruning.Host
import TabPruning.Prune

namespace TabPruning

-- Settings without a defect.
structure Pruner where
  config : Config
  sound  : config.defect? = none

def Config.validate (c : Config) : Except PruneError Unit :=
  match c.defect? with
  | some d => .error (.invalidConfig d.message)
  | none   => .ok ()

def Config.pruner (c : Config) : Except Failure Pruner :=
  match h : c.defect? with
  | some d =>
    .error ((Failure.ofError (.invalidConfig d.message)).within "Configuration validation failed")
  | none   => .ok ⟨c, h⟩

structure Report where
  input    : String
  output   : String
  log      : BlockLog
  removals : List FieldRemoval
  -- Whether the pruned text differs from the input.
  changed  : Bool
  written  : Bool
  dryRun   : Bool
  deriving DecidableEq, Repr

inductive Event
  | blockRemoved (b : Block)
  | fieldStripped (r : FieldRemoval)
  | completed (r : Report)
  deriving DecidableEq, Repr

namespace Report

def summary (r : Report) : String :=
  s!"{r.log.length} block(s), {r.removals.length} field(s) removed"

def completionMessage (r : Report) : String :=
  if r.written then s!"✓ Cleanup completed: {r.summary}, wrote {quoted r.output}"
  else if r.dryRun then s!"✓ Cleanup completed (dry run, nothing written): {r.summary}"
  else s!"✓ Cleanup completed (no changes, nothing written): {r.summary}"

end Report

-- The record by which the command line shows an event.
def Event.record : Event → LogRecord
  | blockRemoved b  =>
    if b.closed then .info s!"Removing block from line {b.firstLine} to {b.lastLine}"
    else .warn (s!"Block at line {b.firstLine} never closes, " ++
      s!"removing through end of document (line {b.lastLine})")
  | fieldStripped r => .info s!"Removing field '{r.field}' at line {r.line}"
  | completed r     => .info r.completionMessage

-- The events of a run before its end.
def Outcome.events (o : Outcome) : List Event :=
  o.log.blocks.map .blockRemoved ++ o.removals.map .fieldStripped

namespace Pruner

variable {m : Type → Type} [Monad m] [Host m]

-- A dry run writes nothing; any other writes what has changed or goes elsewhere.
def writes (p : Pruner) (changed : Bool) (input destination : String) : Bool :=
  !p.config.output.dryRun && (changed || !Path.same destination input)

def run (p : Pruner) (observe : Event → m Unit) (input : String) (output : Option String) :
    ExceptT Failure m Report := do
  let content ← match ← Host.readText input with
    | .ok s    => pure s
    | .error f => throw (.ofError (.sourceUnavailable input f))
  let outcome := p.config.prune content
  Host.logAll (p.config.pruningRecords content)
  outcome.events.forM fun e => observe e
  let destination := output.getD input
  let report : Report := {
    input, output := destination, log := outcome.log, removals := outcome.removals
    changed := outcome.text ≠ content
    written := p.writes (outcome.text ≠ content) input destination
    dryRun  := p.config.output.dryRun
  }
  if report.written then
    match ← Host.write p.config.output.writeMode destination outcome.text with
    | .ok ()   =>
      Host.log (.debug s!"Wrote {outcome.text.utf8ByteSize} bytes to {quoted destination}")
    | .error f => throw (.ofError (.destinationUnwritable destination f))
  observe (.completed report)
  return report

def runLogged (p : Pruner) (input : String) (output : Option String) : ExceptT Failure m Report :=
  p.run (fun e => Host.log e.record) input output

def runObserved (p : Pruner) (input : String) (output : Option String) :
    m (Except Failure Report × List Event) :=
  StateT.run (p.run (m := StateT (List Event) m) (fun e => modify (· ++ [e])) input output).run []

end Pruner

end TabPruning
