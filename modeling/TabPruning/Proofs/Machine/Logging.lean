import Mathlib.Data.List.Basic
import TabPruning.Proofs.Machine.Execution

namespace TabPruning

namespace LogLevel

variable {l l' : LogLevel}

-- The records among these that are logged at this level.
def pick (l : LogLevel) (rs : List LogRecord) : List LogRecord :=
  rs.filter (·.level.allowedBy l)

@[simp] theorem pick_nil (l : LogLevel) : l.pick [] = [] :=
  rfl

theorem pick_append (l : LogLevel) (rs rs' : List LogRecord) :
    l.pick (rs ++ rs') = l.pick rs ++ l.pick rs' :=
  List.filter_append ..

theorem allowedBy_of_mem_pick {rs : List LogRecord} : ∀ r ∈ l.pick rs, r.level.allowedBy l :=
  fun _ hr => (List.mem_filter.mp hr).2

theorem pick_sublist_pick (h : l.allowedBy l') (rs : List LogRecord) :
    (l.pick rs).Sublist (l'.pick rs) := by
  refine List.monotone_filter_right rs fun r hr => ?_
  simp only [allowedBy, decide_eq_true_eq] at h hr ⊢
  exact Nat.le_trans hr h

end LogLevel

namespace Machine

variable {ε ε' α β : Type} {s : Machine} {job x : ExceptT ε MachineM α}
variable {f : α → ExceptT ε MachineM β} {rs rs' : List LogRecord} {tree tree' : FileTree}

theorem log_eq (s : Machine) (r : LogRecord) :
    s.log r = { s with journal := s.journal ++ s.threshold.pick [r] } := by
  rw [log]
  split
  case isTrue h  => simp [LogLevel.pick, h]
  case isFalse h => simp [LogLevel.pick, h]

theorem logAll_eq (s : Machine) (rs : List LogRecord) :
    s.logAll rs = { s with journal := s.journal ++ s.threshold.pick rs } := by
  induction rs generalizing s
  case nil => simp [logAll]
  case cons r rs ih =>
    rw [logAll, List.foldl_cons, ← logAll, ih, log_eq, ← List.singleton_append (l := rs),
      LogLevel.pick_append, List.append_assoc]

theorem write_relog (s : Machine) (threshold : LogLevel) (journal : List LogRecord)
    (mode : WriteMode) (path text : String) :
    { s with threshold, journal }.write mode path text =
      ((s.write mode path text).1,
        { s with tree := (s.write mode path text).2.tree, threshold, journal }) := by
  cases mode
  case atomic => rfl
  case inPlace =>
    simp only [write]
    cases s.tree.overwrite s.workingDirectory path text.toUTF8 <;> rfl

-- On the files of this machine, the job has this result and leaves this tree at whatever level the
-- machine logs, and these are the records that it comes to.
def Says (s : Machine) (job : ExceptT ε MachineM α) (rs : List LogRecord) (result : Except ε α)
    (tree : FileTree) : Prop :=
  ∀ threshold journal, { s with threshold, journal }.exec job =
    (result, { s with tree, threshold, journal := journal ++ threshold.pick rs })

namespace Says

theorem of_silent {result : Except ε α} (h : ∀ threshold journal,
    { s with threshold, journal }.exec job = (result, { s with tree, threshold, journal })) :
    s.Says job [] result tree := by
  intro threshold journal
  rw [h, LogLevel.pick_nil, List.append_nil]

theorem of_logAll {job : ExceptT ε MachineM Unit}
    (h : ∀ s : Machine, s.exec job = (.ok (), s.logAll rs)) : s.Says job rs (.ok ()) s.tree := by
  intro threshold journal
  rw [h, logAll_eq]

theorem pure (a : α) : s.Says (Pure.pure a : ExceptT ε MachineM α) [] (.ok a) s.tree :=
  of_silent fun _ _ => rfl

theorem log (r : LogRecord) :
    s.Says (Host.log r : ExceptT ε MachineM _) [r] (.ok ()) s.tree :=
  of_logAll fun _ => rfl

theorem bind_ok {a : α} {result : Except ε β} (hx : s.Says x rs (.ok a) tree)
    (hf : { s with tree }.Says (f a) rs' result tree') :
    s.Says (x >>= f) (rs ++ rs') result tree' := by
  intro threshold journal
  rw [exec_bind, hx]
  refine (hf threshold _).trans ?_
  rw [LogLevel.pick_append, List.append_assoc]

theorem bind_error {e : ε} (hx : s.Says x rs (.error e) tree) :
    s.Says (x >>= f) rs (.error e) tree := by
  intro threshold journal
  rw [exec_bind, hx]

end Says

-- Wherever it is run, the level makes no difference to what the job does.
def IgnoresLevel (job : ExceptT ε MachineM α) : Prop :=
  ∀ s : Machine, ∃ rs result tree, s.Says job rs result tree

namespace IgnoresLevel

theorem pure (a : α) : IgnoresLevel (Pure.pure a : ExceptT ε MachineM α) :=
  fun _ => ⟨_, _, _, .pure a⟩

theorem throw_bind (e : ε) : IgnoresLevel (MonadExcept.throw e >>= f) :=
  fun s => ⟨_, .error e, s.tree, .of_silent fun _ _ => by rw [exec_bind, exec_throw]⟩

theorem readText (path : String) : IgnoresLevel (Host.readText path : ExceptT ε MachineM _) :=
  fun s => ⟨_, .ok (s.readText path), s.tree, .of_silent fun _ _ => rfl⟩

theorem write (mode : WriteMode) (path text : String) :
    IgnoresLevel (Host.write mode path text : ExceptT ε MachineM _) :=
  fun s => ⟨_, .ok (s.write mode path text).1, (s.write mode path text).2.tree,
    .of_silent fun _ _ => by rw [exec_write, write_relog]⟩

theorem log (r : LogRecord) : IgnoresLevel (Host.log r : ExceptT ε MachineM _) :=
  fun _ => ⟨_, _, _, .log r⟩

theorem lift_log (r : LogRecord) :
    IgnoresLevel (liftM (Host.log r : MachineM _) : ExceptT ε MachineM _) :=
  fun _ => ⟨[r], _, _, .of_logAll fun _ => rfl⟩

theorem logAll (rs : List LogRecord) : IgnoresLevel (Host.logAll rs : ExceptT ε MachineM _) :=
  fun _ => ⟨rs, _, _, .of_logAll fun _ => exec_logAll rs⟩

theorem bind (hx : IgnoresLevel x) (hf : ∀ a, IgnoresLevel (f a)) : IgnoresLevel (x >>= f) := by
  intro s
  obtain ⟨rs, _ | a, tree, h⟩ := hx s
  case error => exact ⟨_, _, _, h.bind_error⟩
  case ok =>
    obtain ⟨_, _, _, h'⟩ := hf a { s with tree }
    exact ⟨_, _, _, h.bind_ok h'⟩

theorem adapt {g : ε → ε'} (hx : IgnoresLevel x) : IgnoresLevel (x.adapt g) := by
  intro s
  obtain ⟨rs, result, tree, h⟩ := hx s
  exact ⟨rs, result.mapError g, tree, fun _ _ => by rw [exec_adapt, h]⟩

end IgnoresLevel

end Machine

end TabPruning
