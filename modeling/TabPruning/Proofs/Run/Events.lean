import TabPruning.Proofs.Machine.Modes
import TabPruning.Proofs.Prune.Stages
import TabPruning.Proofs.Run.Execution

namespace TabPruning

namespace Event

def isCompleted : Event → Bool
  | blockRemoved _  => false
  | fieldStripped _ => false
  | completed _     => true

end Event

namespace Outcome

variable {o : Outcome} {e : Event}

theorem not_isCompleted_of_mem_events (h : e ∈ o.events) : !e.isCompleted := by
  simp only [events, List.mem_append, List.mem_map] at h
  obtain ⟨b, _, rfl⟩ | ⟨r, _, rfl⟩ := h <;> rfl

theorem completed_not_mem_events (o : Outcome) (r : Report) : .completed r ∉ o.events :=
  fun h => nomatch not_isCompleted_of_mem_events h

theorem takeWhile_events (o : Outcome) (r? : Option Report) :
    (o.events ++ r?.toList.map Event.completed).takeWhile (!·.isCompleted) = o.events := by
  rw [List.takeWhile_append_of_pos fun e he => not_isCompleted_of_mem_events he]
  cases r? <;> simp [Event.isCompleted]

end Outcome

-- The same settings for a dry run, or for one that is not dry.
def Config.withDryRun (c : Config) (dry : Bool) : Config :=
  { c with output := { c.output with dryRun := dry } }

namespace Pruner

open Machine

def withDryRun (p : Pruner) (dry : Bool) : Pruner where
  config := p.config.withDryRun dry
  sound  := p.sound

-- What observers are told of a run with this result: nothing if its input cannot be read, else
-- first of the blocks in the order of their lines, then of the fields, and at last of the end if
-- the run succeeds.
structure Told (p : Pruner) (s : Machine) (input : String) (result : Except Failure Report)
    (es : List Event) : Prop where
  unread    : ∀ f, s.readText input = .error f → es = []
  read      : ∀ content, s.readText input = .ok content →
    es = (p.config.prune content).log.blocks.map .blockRemoved ++
      (p.config.prune content).removals.map .fieldStripped ++
      result.toOption.toList.map .completed
  ordered   : ∀ content, s.readText input = .ok content →
    (p.config.prune content).log.blocks.Pairwise fun b c => b.lastLine < c.firstLine
  completed : ∀ r, .completed r ∈ es ↔ result = .ok r

variable {p : Pruner} {s : Machine} {input content : String} {output : Option String}

theorem blocks_ordered (p : Pruner) (content : String) :
    (p.config.prune content).log.blocks.Pairwise fun b c => b.lastLine < c.firstLine :=
  (p.config.excise_segmentation content).blocks_ordered.imp fun h => Nat.succ_lt_succ h

theorem told_of_read (hr : s.readText input = .ok content) {result : Except Failure Report} :
    p.Told s input result
      ((p.config.prune content).events ++ result.toOption.toList.map .completed) where
  unread f hf := nomatch hr.symm.trans hf
  read content' hr' := by
    cases hr.symm.trans hr'
    rfl
  ordered content' _ := p.blocks_ordered content'
  completed r := by
    rw [List.mem_append, or_iff_right (Outcome.completed_not_mem_events _ r)]
    cases result <;> simp [Except.toOption, eq_comm]

-- The result of a run that observers follow, and what they are told.
def observed (p : Pruner) (input : String) (output : Option String) (s : Machine) :
    Except Failure Report × List Event :=
  ((p.runObserved input output : MachineM _).run s).1

theorem observed_of_unread {f : FileFault} (hr : s.readText input = .error f) :
    p.observed input output s = (.error (.ofError (.sourceUnavailable input f)), []) := by
  rw [observed, run_runObserved, hr]

-- Once the input is read, the events before the end are those of the outcome, and the report of a
-- run that succeeds is settled.
theorem observed_of_read (output : Option String) (hr : s.readText input = .ok content) :
    ∃ result, p.observed input output s =
        (result, (p.config.prune content).events ++ result.toOption.toList.map .completed) ∧
      ∀ r, result = .ok r → r = p.report input output content := by
  rw [observed, run_runObserved, hr]
  cases hb : (p.report input output content).written
  case false =>
    simp only [hb, Bool.false_eq_true, if_false]
    exact ⟨_, rfl, fun r h => (Except.ok.inj h).symm⟩
  case true =>
    simp only [hb, if_true]
    split
    case h_1 f s' hw =>
      exact ⟨.error (.ofError (.destinationUnwritable _ f)), Prod.ext rfl (List.append_nil _).symm,
        nofun⟩
    case h_2 => exact ⟨_, rfl, fun r h => (Except.ok.inj h).symm⟩

theorem observed_of_write (output : Option String) (hr : s.readText input = .ok content)
    (hw : (p.report input output content).written → ∀ s₁ : Machine, s₁.SameFiles s →
      ∃ s₂, s₁.write p.config.output.writeMode (output.getD input)
        (p.config.prune content).text = (.ok (), s₂)) :
    p.observed input output s =
      (.ok (p.report input output content),
        (p.config.prune content).events ++ [.completed (p.report input output content)]) := by
  rw [observed, run_runObserved, hr]
  cases hb : (p.report input output content).written
  case false => simp only [hb, Bool.false_eq_true, if_false]
  case true =>
    have ⟨s₂, h⟩ := hw hb _ (sameFiles_logAll s (p.config.pruningRecords content))
    have ho : (p.report input output content).output = output.getD input := rfl
    simp only [hb, if_true, ho, h]

theorem told (p : Pruner) (input : String) (output : Option String) (s : Machine) :
    p.Told s input (p.observed input output s).1 (p.observed input output s).2 := by
  cases hr : s.readText input
  case error f =>
    rw [observed_of_unread hr]
    exact {
      unread    := fun _ _ => rfl
      read      := fun _ h => by cases hr.symm.trans h
      ordered   := fun content _ => p.blocks_ordered content
      completed := by simp }
  case ok content =>
    have ⟨result, ho, _⟩ := p.observed_of_read output hr
    rw [ho]
    exact told_of_read hr

-- Observers are told exactly what a run does, and a dry run tells in advance what the run does.
theorem run_tells_and_dry_run_predicts (p : Pruner) (dry : Bool) (input : String)
    (output : Option String) (s : Machine) :
    let run := p.observed input output s
    let other := (p.withDryRun dry).observed input output s
    p.Told s input run.1 run.2 ∧
    run.2.takeWhile (!·.isCompleted) = other.2.takeWhile (!·.isCompleted) ∧
    ∀ r r', run.1 = .ok r → other.1 = .ok r' →
      r' = { r with written := r'.written, dryRun := r'.dryRun } := by
  refine ⟨p.told input output s, ?_⟩
  cases hr : s.readText input
  case error f =>
    rw [observed_of_unread hr, observed_of_unread hr]
    exact ⟨rfl, fun _ _ h => by cases h⟩
  case ok content =>
    have ⟨result, ho, hp⟩ := p.observed_of_read output hr
    have ⟨result', ho', hp'⟩ := (p.withDryRun dry).observed_of_read output hr
    rw [ho, ho']
    constructor
    case left =>
      simp only [Outcome.takeWhile_events]
      rfl
    case right =>
      intro r r' h h'
      rw [hp r h, hp' r' h']
      rfl

-- So it is for a run that removes a block and a field on its way to a new file.
theorem run_tells_and_dry_run_predicts_removals :
    let p : Pruner := { config := { markers := [.team], fields := ["a"] }, sound := by decide }
    let text := "a: 1,\nif (activeTab === 'team') \x7b\n\x7d\nend"
    let s : Machine :=
      { tree := FileTree.empty.set ["in.ts"] (.file text.toUTF8 0o644), workingDirectory := [] }
    ∃ r r' b f,
      p.observed "in.ts" (some "out.ts") s =
        (.ok r, [.blockRemoved b, .fieldStripped f, .completed r]) ∧
      (p.withDryRun true).observed "in.ts" (some "out.ts") s =
        (.ok r', [.blockRemoved b, .fieldStripped f, .completed r']) ∧
      r.written ∧ r' = { r with written := false, dryRun := true } := by
  intro p text s
  have hr : s.readText "in.ts" = .ok text :=
    FileTree.readText_of_resolve <| FileTree.Walks.resolve (.arrive (by decide) rfl) (by decide)
  have hn : s.tree.named? [] "out.ts" = some ["out.ts"] := FileTree.named?_eq_some_iff.mpr
    ⟨[], "out.ts", [], by decide, by decide, .done, rfl⟩
  have hs (s₁ : Machine) (h : s₁.SameFiles s) : s₁.Settled "out.ts" ["out.ts"] := by
    constructor <;> rw [h.tree, h.workingDirectory]
    case led => exact FileTree.led?_of_named? hn rfl
    case named => exact hn
  have he : (p.config.prune text).events =
      [.blockRemoved ⟨1, 2, .team, true⟩, .fieldStripped ⟨"a", 1, 1⟩] := by decide +kernel
  have ho := p.observed_of_write (some "out.ts") hr
    fun _ s₁ h => ⟨_, (hs s₁ h).write_eq _ _⟩
  have ho' := (p.withDryRun true).observed_of_write (some "out.ts") hr
    fun _ s₁ h => ⟨_, (hs s₁ h).write_eq _ _⟩
  have hp := (run_tells_and_dry_run_predicts p true "in.ts" (some "out.ts") s).2.2 _ _
    (congrArg Prod.fst ho) (congrArg Prod.fst ho')
  have hb : Path.same "out.ts" "in.ts" = false := by decide
  refine ⟨p.report "in.ts" (some "out.ts") text,
    (p.withDryRun true).report "in.ts" (some "out.ts") text,
    ⟨1, 2, .team, true⟩, ⟨"a", 1, 1⟩, ho.trans ?_, ho'.trans ?_, ?_, hp.trans ?_⟩
  · rw [he]; rfl
  · rw [show (p.withDryRun true).config.prune text = p.config.prune text from rfl, he]; rfl
  · simp [report, writes, hb, p]
  · rfl

end Pruner

end TabPruning
