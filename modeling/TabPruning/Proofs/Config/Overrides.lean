import Mathlib.Data.List.Induction
import TabPruning.Proofs.Run.Frame

namespace TabPruning

namespace Overrides

-- Both overrides as one, where the later one takes precedence.
def merge (o later : Overrides) : Overrides where
  markers  := if later.markers = [] then o.markers else later.markers
  fields   := if later.fields = [] then o.fields else later.fields
  dryRun   := o.dryRun || later.dryRun
  inPlace  := o.inPlace || later.inPlace
  logLevel := later.logLevel.or o.logLevel

def mergeAll (os : List Overrides) : Overrides :=
  os.foldl merge {}

theorem merge_self (o : Overrides) : o.merge o = o := by
  simp [merge]

end Overrides

namespace Config

variable {c : Config} {o o' : Overrides} {os os' : List Overrides}

def overrideAll (c : Config) (os : List Overrides) : Config :=
  os.foldl Config.override c

-- Settings after a history of overrides: the latest list that is not empty, the latest level that
-- was given, and every flag as it was unless some override raised it.
structure Overridden (c : Config) (os : List Overrides) (r : Config) : Prop where
  markers   : r.markers = ((os.map (·.markers)).filter (· ≠ [])).getLast?.getD c.markers
  fields    : r.fields = ((os.map (·.fields)).filter (· ≠ [])).getLast?.getD c.fields
  logLevel  : r.logLevel = (os.filterMap (·.logLevel)).getLast?.getD c.logLevel
  dryRun    : r.output.dryRun ↔ c.output.dryRun ∨ ∃ o ∈ os, o.dryRun
  writeMode : r.output.writeMode = if ∃ o ∈ os, o.inPlace then .inPlace else c.output.writeMode

namespace Overridden

theorem nil : c.Overridden [] c := by
  constructor <;> simp

variable {r r' : Config}

theorem concat (h : c.Overridden os r) (o : Overrides) :
    c.Overridden (os ++ [o]) (r.override o) where
  markers   := by by_cases hm : o.markers = [] <;> simp [Config.override, hm, h.markers]
  fields    := by by_cases hf : o.fields = [] <;> simp [Config.override, hf, h.fields]
  logLevel  := by cases hl : o.logLevel <;> simp [Config.override, hl, h.logLevel]
  dryRun    := by
    have hd : (r.override o).output.dryRun ↔ o.dryRun ∨ r.output.dryRun := Bool.or_eq_true_iff ..
    rw [hd, h.dryRun]
    simp only [List.mem_append, List.mem_singleton, or_and_right, exists_or, exists_eq_left]
    rw [or_comm, or_assoc]
  writeMode := by by_cases hi : o.inPlace <;> simp [Config.override, hi, h.writeMode]

theorem unique (h : c.Overridden os r) (h' : c.Overridden os r') : r = r' := by
  obtain ⟨markers, fields, ⟨mode, dry⟩, level⟩ := r
  obtain ⟨markers', fields', ⟨mode', dry'⟩, level'⟩ := r'
  obtain rfl : markers = markers' := h.markers.trans h'.markers.symm
  obtain rfl : fields = fields' := h.fields.trans h'.fields.symm
  obtain rfl : mode = mode' := h.writeMode.trans h'.writeMode.symm
  obtain rfl : dry = dry' := Bool.eq_iff_iff.mpr <| h.dryRun.trans h'.dryRun.symm
  obtain rfl : level = level' := h.logLevel.trans h'.logLevel.symm
  rfl

end Overridden

@[simp] theorem overrideAll_nil : c.overrideAll [] = c :=
  rfl

@[simp] theorem overrideAll_cons : c.overrideAll (o :: os) = (c.override o).overrideAll os :=
  rfl

theorem overrideAll_append : c.overrideAll (os ++ os') = (c.overrideAll os).overrideAll os' :=
  List.foldl_append

theorem overridden_overrideAll (c : Config) (os : List Overrides) :
    c.Overridden os (c.overrideAll os) := by
  induction os using List.reverseRecOn
  case nil => exact .nil
  case append_singleton os o ih =>
    rw [overrideAll_append]
    exact ih.concat o

theorem overrideAll_eq_iff {r : Config} : c.overrideAll os = r ↔ c.Overridden os r :=
  ⟨(· ▸ overridden_overrideAll c os), (overridden_overrideAll c os).unique⟩

theorem override_empty : c.override {} = c := by
  simp [Config.override]

theorem override_merge : c.override (o.merge o') = (c.override o).override o' := by
  simp only [Config.override, Overrides.merge, mk.injEq, OutputConfig.mk.injEq]
  refine ⟨?markers, ?fields, ⟨?writeMode, ?dryRun⟩, ?logLevel⟩
  case markers | fields => split <;> simp [*]
  case writeMode => by_cases hi : o'.inPlace <;> simp [hi]
  case dryRun => rw [← Bool.or_assoc, Bool.or_comm o.dryRun]
  case logLevel => cases o'.logLevel <;> rfl

theorem override_mergeAll : c.override (Overrides.mergeAll os) = c.overrideAll os := by
  induction os using List.reverseRecOn
  case nil => exact override_empty
  case append_singleton os o ih =>
    rw [Overrides.mergeAll, List.foldl_concat, override_merge, overrideAll_append]
    exact congrArg (·.override o) ih

theorem override_self : (c.override o).override o = c.override o := by
  rw [← override_merge, Overrides.merge_self]

theorem dryRun_overrideAll (h : c.output.dryRun) : (c.overrideAll os).output.dryRun :=
  (overridden_overrideAll c os).dryRun.mpr <| .inl h

-- A history of overrides leaves the latest value of every setting, and can be shortened to the
-- merge of its overrides, or of any two that follow each other. A dry run stays one, and changes
-- no file.
theorem overrideAll_is_merge (c : Config) (os : List Overrides) :
    (∀ r, c.overrideAll os = r ↔ c.Overridden os r) ∧
    c.overrideAll os = c.override (.mergeAll os) ∧
    (∀ o o' os', c.overrideAll (os ++ o :: o' :: os') = c.overrideAll (os ++ o.merge o' :: os')) ∧
    (∀ o os', c.overrideAll (os ++ o :: o :: os') = c.overrideAll (os ++ o :: os')) ∧
    (c.output.dryRun → (c.overrideAll os).output.dryRun ∧
      ∀ p : Pruner, p.config = c.overrideAll os →
        ∀ s input output, (Machine.exec s (p.runLogged input output)).2.tree = s.tree) := by
  refine ⟨fun _ => overrideAll_eq_iff, override_mergeAll.symm, ?two, ?same, fun h => ⟨?stays, ?_⟩⟩
  case two =>
    intro o o' os'
    simp only [overrideAll_append, overrideAll_cons, override_merge]
  case same =>
    intro o os'
    simp only [overrideAll_append, overrideAll_cons, override_self]
  case stays => exact dryRun_overrideAll h
  intro p hp s input output
  exact (Pruner.ran_of_runLogged rfl).tree_of_dryRun <| hp ▸ dryRun_overrideAll h

-- Although the write mode is overridden too, no file is changed.
theorem overrideAll_is_merge_of_dry_run :
    let c : Config := { output := { dryRun := true } }
    let os : List Overrides := [
      { markers := [.team], inPlace := true }, { fields := ["delay"], logLevel := some .debug },
      { markers := [.automation], logLevel := some .warn }]
    let p : Pruner := { config := c.overrideAll os, sound := by decide }
    c.output.dryRun ∧
      p.config = ⟨[.automation], ["delay"], { writeMode := .inPlace, dryRun := true }, .warn⟩ ∧
      ∀ s input output, (Machine.exec s (p.runLogged input output)).2.tree = s.tree := by
  intro c os p
  have ⟨_, hw⟩ := (overrideAll_is_merge c os).2.2.2.2 rfl
  exact ⟨rfl, rfl, hw p rfl⟩

end Config

end TabPruning
