import TabPruning.Proofs.Machine.Execution
import TabPruning.Run

namespace TabPruning

-- A machine with the events that observers were told.
abbrev ObservedM := StateT (List Event) MachineM

namespace Machine

variable {ε α β : Type} {s : Machine} {es : List Event}

-- The result of a job that tells events, all events told so far, and the machine after it.
def follow (s : Machine) (es : List Event) (job : ExceptT ε ObservedM α) :
    (Except ε α × List Event) × Machine :=
  (job.run.run es).run s

@[simp] theorem follow_pure (a : α) :
    s.follow es (pure a : ExceptT ε ObservedM α) = ((.ok a, es), s) :=
  rfl

@[simp] theorem follow_bind (x : ExceptT ε ObservedM α) (f : α → ExceptT ε ObservedM β) :
    s.follow es (x >>= f) =
      match s.follow es x with
      | ((.ok a, es), s)    => s.follow es (f a)
      | ((.error e, es), s) => ((.error e, es), s) := by
  rw [follow, ExceptT.run_bind, StateT.run_bind, StateT.run_bind]
  simp only [follow, Bind.bind]
  rcases (x.run.run es).run s with ⟨⟨_ | _, es⟩, s⟩ <;> rfl

@[simp] theorem follow_readText (path : String) :
    s.follow es (Host.readText path : ExceptT ε ObservedM _) = ((.ok (s.readText path), es), s) :=
  rfl

@[simp] theorem follow_write (mode : WriteMode) (path text : String) :
    s.follow es (Host.write mode path text : ExceptT ε ObservedM _) =
      ((.ok (s.write mode path text).1, es), (s.write mode path text).2) :=
  rfl

@[simp] theorem follow_log (r : LogRecord) :
    s.follow es (Host.log r : ExceptT ε ObservedM _) = ((.ok (), es), s.log r) :=
  rfl

@[simp] theorem follow_logAll (rs : List LogRecord) :
    s.follow es (Host.logAll rs : ExceptT ε ObservedM _) = ((.ok (), es), s.logAll rs) := by
  induction rs generalizing s
  case nil => rfl
  case cons r rs ih => simpa [Host.logAll, logAll] using ih

@[simp] theorem follow_tell (e : Event) :
    s.follow es (liftM (modify (· ++ [e]) : ObservedM _) : ExceptT ε ObservedM _) =
      ((.ok (), es ++ [e]), s) :=
  rfl

@[simp] theorem follow_forM_tell (new : List Event) :
    s.follow es (new.forM fun e =>
      (liftM (modify (· ++ [e]) : ObservedM _) : ExceptT ε ObservedM _)) =
        ((.ok (), es ++ new), s) := by
  induction new generalizing es
  case nil => simp
  case cons e new ih =>
    simp only [List.forM_eq_forM, List.forM_cons, follow_bind, follow_tell] at ih ⊢
    rw [ih, List.append_assoc, List.singleton_append]

@[simp] theorem exec_forM_record (es : List Event) :
    s.exec (es.forM fun e => (liftM (Host.log e.record : MachineM _) : ExceptT ε MachineM _)) =
      (.ok (), s.logAll (es.map Event.record)) := by
  induction es generalizing s
  case nil => rfl
  case cons e es ih => simpa [logAll] using ih

end Machine

namespace Pruner

open Machine

-- The report of a run that reads this text and does not fail.
def report (p : Pruner) (input : String) (output : Option String) (content : String) : Report :=
  let outcome := p.config.prune content
  let destination := output.getD input
  { input, output := destination, log := outcome.log, removals := outcome.removals
    changed := outcome.text ≠ content
    written := p.writes (outcome.text ≠ content) input destination
    dryRun  := p.config.output.dryRun }

-- The record of a write.
def writtenRecord (p : Pruner) (r : Report) (content : String) : LogRecord :=
  .debug s!"Wrote {(p.config.prune content).text.utf8ByteSize} bytes to {quoted r.output}"

-- What comes of a run, whoever is told of it: the write is the only thing it does to the files.
inductive Ran (p : Pruner) (input : String) (output : Option String) (s : Machine) :
    Except Failure Report → Machine → Prop
  | unread : s.readText input = .error f →
    Ran p input output s (.error (.ofError (.sourceUnavailable input f))) s
  | idle : s.readText input = .ok content → (p.report input output content).written = false →
    s'.SameFiles s → Ran p input output s (.ok (p.report input output content)) s'
  | refused {s₁ : Machine} : s.readText input = .ok content →
    (p.report input output content).written → s₁.SameFiles s →
    s₁.write p.config.output.writeMode (output.getD input) (p.config.prune content).text =
      (.error f, s') →
    Ran p input output s (.error (.ofError (.destinationUnwritable (output.getD input) f))) s'
  | wrote {s₁ s₂ : Machine} : s.readText input = .ok content →
    (p.report input output content).written → s₁.SameFiles s →
    s₁.write p.config.output.writeMode (output.getD input) (p.config.prune content).text =
      (.ok (), s₂) →
    s'.SameFiles s₂ → Ran p input output s (.ok (p.report input output content)) s'

theorem exec_runLogged (p : Pruner) (input : String) (output : Option String) (s : Machine) :
    s.exec (p.runLogged input output) =
      match s.readText input with
      | .error f    => (.error (.ofError (.sourceUnavailable input f)), s)
      | .ok content =>
        let o := p.config.prune content
        let r := p.report input output content
        let s := (s.logAll (p.config.pruningRecords content)).logAll (o.events.map Event.record)
        if r.written then
          match s.write p.config.output.writeMode r.output o.text with
          | (.error f, s) => (.error (.ofError (.destinationUnwritable r.output f)), s)
          | (.ok (), s)   =>
            (.ok r, (s.log (p.writtenRecord r content)).log (Event.completed r).record)
        else (.ok r, s.log (Event.completed r).record) := by
  rw [runLogged, Pruner.run, exec_bind, exec_readText]
  cases hr : s.readText input
  case error f => rfl
  case ok content =>
    simp only [exec_bind, exec_pure, exec_logAll, exec_forM_record]
    cases hw : p.writes ((p.config.prune content).text ≠ content) input (output.getD input)
    case false =>
      simp only [report, hw, Bool.false_eq_true, if_false, exec_bind, exec_pure, exec_lift_log]
    case true =>
      simp only [report, hw, if_true, exec_bind, exec_write]
      rcases Machine.write _ p.config.output.writeMode (output.getD input)
        (p.config.prune content).text with ⟨_ | _, s'⟩ <;> rfl

-- A run succeeds if its input can be read and its write succeeds, which no record decides.
theorem exec_runLogged_of_write {p : Pruner} {s : Machine} {input content : String}
    {output : Option String} (hr : s.readText input = .ok content)
    (hb : (p.report input output content).written)
    (hw : ∀ s₁ : Machine, s₁.SameFiles s →
      ∃ s₂, s₁.write p.config.output.writeMode (output.getD input)
        (p.config.prune content).text = (.ok (), s₂)) :
    ∃ s', s.exec (p.runLogged input output) = (.ok (p.report input output content), s') := by
  have ⟨s₂, h⟩ := hw _ <| (sameFiles_logAll (s.logAll (p.config.pruningRecords content))
    ((p.config.prune content).events.map Event.record)).trans (sameFiles_logAll ..)
  have ho : (p.report input output content).output = output.getD input := rfl
  rw [exec_runLogged, hr]
  simp only [hb, if_true, ho, h]
  exact ⟨_, rfl⟩

theorem run_runObserved (p : Pruner) (input : String) (output : Option String) (s : Machine) :
    (p.runObserved input output : MachineM _).run s =
      match s.readText input with
      | .error f    => ((.error (.ofError (.sourceUnavailable input f)), []), s)
      | .ok content =>
        let o := p.config.prune content
        let r := p.report input output content
        let s := s.logAll (p.config.pruningRecords content)
        if r.written then
          match s.write p.config.output.writeMode r.output o.text with
          | (.error f, s) => ((.error (.ofError (.destinationUnwritable r.output f)), o.events), s)
          | (.ok (), s)   =>
            ((.ok r, o.events ++ [.completed r]), s.log (p.writtenRecord r content))
        else ((.ok r, o.events ++ [.completed r]), s) := by
  change s.follow [] _ = _
  rw [Pruner.run, follow_bind, follow_readText]
  cases hr : s.readText input
  case error f => rfl
  case ok content =>
    simp only [follow_bind, follow_pure, follow_logAll, follow_forM_tell, List.nil_append]
    cases hw : p.writes ((p.config.prune content).text ≠ content) input (output.getD input)
    case false =>
      simp only [report, hw, Bool.false_eq_true, if_false, follow_bind, follow_pure, follow_tell]
    case true =>
      simp only [report, hw, if_true, follow_bind, follow_write]
      rcases Machine.write _ p.config.output.writeMode (output.getD input)
        (p.config.prune content).text with ⟨_ | _, s'⟩ <;> rfl

theorem ran_runLogged (p : Pruner) (input : String) (output : Option String) (s : Machine) :
    p.Ran input output s (s.exec (p.runLogged input output)).1
      (s.exec (p.runLogged input output)).2 := by
  rw [exec_runLogged]
  cases hr : s.readText input
  case error f => exact .unread hr
  case ok content =>
    have hs := (sameFiles_logAll (s.logAll (p.config.pruningRecords content))
      ((p.config.prune content).events.map Event.record)).trans (sameFiles_logAll ..)
    cases hb : (p.report input output content).written
    case false =>
      simp only [hb, Bool.false_eq_true, if_false]
      exact .idle hr hb <| (sameFiles_log ..).trans hs
    case true =>
      simp only [hb, if_true]
      split
      case h_1 hw => exact .refused hr hb hs hw
      case h_2 hw => exact .wrote hr hb hs hw <| (sameFiles_log ..).trans (sameFiles_log ..)

theorem ran_runObserved (p : Pruner) (input : String) (output : Option String) (s : Machine) :
    p.Ran input output s ((p.runObserved input output : MachineM _).run s).1.1
      ((p.runObserved input output : MachineM _).run s).2 := by
  rw [run_runObserved]
  cases hr : s.readText input
  case error f => exact .unread hr
  case ok content =>
    have hs := sameFiles_logAll s (p.config.pruningRecords content)
    cases hb : (p.report input output content).written
    case false =>
      simp only [hb, Bool.false_eq_true, if_false]
      exact .idle hr hb hs
    case true =>
      simp only [hb, if_true]
      split
      case h_1 hw => exact .refused hr hb hs hw
      case h_2 hw => exact .wrote hr hb hs hw (sameFiles_log ..)

variable {p : Pruner} {input : String} {output : Option String} {s s' : Machine}
variable {result : Except Failure Report} {es : List Event}

theorem ran_of_runLogged (h : s.exec (p.runLogged input output) = (result, s')) :
    p.Ran input output s result s' := by
  have hr := p.ran_runLogged input output s
  rwa [h] at hr

theorem ran_of_runObserved
    (h : (p.runObserved input output : MachineM _).run s = ((result, es), s')) :
    p.Ran input output s result s' := by
  have hr := p.ran_runObserved input output s
  rwa [h] at hr

end Pruner

end TabPruning
