import TabPruning.Proofs.Prune.Declarations
import TabPruning.Proofs.Prune.NormalForm
import TabPruning.Proofs.Prune.Report

namespace TabPruning

namespace Config

-- Every line outside the blocks that declares the field is reported, once and for this field.
def ReportsDeclarations (c : Config) (f text : String) : Prop :=
  ∀ n ∈ (c.prune text).outside (.ofText text.toList), n.line.IsDeclaration f.toList →
    ((c.prune text).removals.filter (·.line = n.index + 1)).map (·.field) = [f]

-- No such line has gone as the continuation of another declaration.
def SparesDeclarations (c : Config) (f text : String) : Prop :=
  ∀ kept continuations, Accounting (.ofText text.toList) (c.prune text) kept continuations →
    ∀ n ∈ (c.prune text).outside (.ofText text.toList), n.line.IsDeclaration f.toList →
      n.index ∉ continuations

instance (c : Config) (f text : String) : Decidable (c.ReportsDeclarations f text) :=
  inferInstanceAs <| Decidable (∀ _ ∈ _, _ → _)

end Config

variable {c : Config} {text : String} {d : Document} {o : Outcome} {l n : NumberedLine}
variable {f : String} {fields : List String} {kept continuations : List Nat} {name : List Char}

theorem Outcome.mem_outside_iff : n ∈ o.outside d ↔
    d[n.index]? = some n.line ∧ ∀ b ∈ o.log.blocks, ¬b.covers n.index := by
  simp [outside, Document.mem_numbered_iff]

namespace Config

theorem removal_field_mem (hn : ∀ f ∈ c.fields, f.toList ≠ []) (text : String) :
    ∀ r ∈ (c.prune text).removals, r.field ∈ c.fields := by
  have ⟨xs, p, hr⟩ := stripFields_passes c.fields (c.excise text).kept
  rw [prune_eq_residue hn, residue, hr]
  exact List.forall_mem_map.mpr p.field_mem

-- The kept lines are those of the text, which is normal.
theorem not_isDeclaration_of_kept (hn : ∀ f ∈ c.fields, f.toList ≠ [])
    (a : Accounting (.ofText text.toList) (c.prune text) kept continuations)
    (hk : n.index ∈ kept) (hl : (Document.ofText text.toList)[n.index]? = some n.line) :
    ∀ f ∈ c.fields, ¬n.line.IsDeclaration f.toList := by
  intro f hf hd
  have hmem := (Document.ofText text.toList).mem_select hk hl
  have hlf : ∀ l ∈ (Document.ofText text.toList).select kept, '\n' ∉ l :=
    fun l hl => Document.not_mem_of_mem_ofText l <| Document.select_subset _ _ hl
  have h := (prune_isNormal hn text).undeclared f hf n.line
  rw [a.text, String.toList_ofList, Document.ofText_toText (List.ne_nil_of_mem hmem) hlf] at h
  exact Bool.eq_false_iff.mp (h hmem) <| Line.declares_iff.mpr hd

-- A declaration outside the blocks is either reported or the continuation of another one.
theorem countP_add_count (hn : ∀ f ∈ c.fields, f.toList ≠ [])
    (a : Accounting (.ofText text.toList) (c.prune text) kept continuations)
    (ho : n ∈ (c.prune text).outside (.ofText text.toList)) (hf : f ∈ c.fields)
    (hd : n.line.IsDeclaration f.toList) :
    (c.prune text).removals.countP (·.line = n.index + 1) + continuations.count n.index = 1 := by
  have ⟨hl, hb⟩ := Outcome.mem_outside_iff.mp ho
  have hk : n.index ∉ kept := fun hk => not_isDeclaration_of_kept hn a hk hl f hf hd
  have h := a.once n.index <| Document.index_lt hl
  rw [List.count_eq_zero.mpr hk, List.countP_eq_zero.mpr hb] at h
  omega

theorem spares_iff_reports (hc : c.validate = .ok ()) (hf : f ∈ c.fields) (text : String) :
    c.SparesDeclarations f text ↔ c.ReportsDeclarations f text := by
  have hn := fields_ne_nil hc
  have ⟨kept, continuations, a⟩ := exists_accounting hn text
  constructor
  case mp =>
    intro hs n ho hd
    have h := countP_add_count hn a ho hf hd
    rw [List.count_eq_zero.mpr <| hs _ _ a n ho hd, List.countP_eq_length_filter] at h
    have ⟨r, hr⟩ := List.length_eq_one_iff.mp h
    have ⟨hr', hline⟩ := List.mem_filter.mp <| hr ▸ List.mem_singleton_self r
    have hline : r.line = n.index + 1 := by simpa using hline
    have ⟨_, l, hl, hdecl⟩ := a.declared r hr'
    rw [hline, Nat.add_sub_cancel, (Outcome.mem_outside_iff.mp ho).1] at hl
    cases hl
    have := declared_unique hc (removal_field_mem hn text r hr') hf (Line.declares_iff.mp hdecl) hd
    rw [hr, ← this]
    rfl
  case mpr =>
    intro hr kept continuations a n ho hd
    have h := countP_add_count hn a ho hf hd
    have hlen := congrArg List.length <| hr n ho hd
    rw [List.length_map, ← List.countP_eq_length_filter, List.length_singleton] at hlen
    exact List.count_eq_zero.mp <| by omega

theorem spares_of_isPlainName (hc : c.validate = .ok ()) (hf : f ∈ c.fields)
    (hp : Line.IsPlainName f.toList) (text : String) : c.SparesDeclarations f text := by
  intro kept continuations a n ho hd hcont
  have ⟨_, _, hr⟩ := a.exists_wrapped n.index hcont
  have ⟨l, hl, hcomma, hsome, hcloser⟩ := hr.continues
  cases hl.symm.trans (Outcome.mem_outside_iff.mp ho).1
  have hn : n.line.isContinuation := by simp [Line.isContinuation, hcomma, hsome, hcloser]
  exact (hd.isContinuation_iff (isBareName_of_mem hc f hf) |>.mp hn).2 hp

end Config

-- Where one field alone is declared, the passes for the others find nothing.
theorem stripFields_eq_stripField {ls : List NumberedLine} (hf : f ∈ fields)
    (h : ∀ g ∈ fields, g ≠ f → ∀ l ∈ ls, l.line.declares g.toList = false) :
    stripFields fields ls = stripField f ls := by
  induction fields
  case nil => cases hf
  case cons g fields ih =>
    by_cases hg : g = f
    case pos =>
      subst hg
      have ⟨xs, p, _⟩ := stripField_pass g ls
      have hs : stripFields fields (stripField g ls).kept = ⟨(stripField g ls).kept, []⟩ := by
        refine stripFields_eq_self fun g' hg' l hl => ?_
        by_cases he : g' = g
        case pos => exact he ▸ p.not_declares l hl
        case neg => exact h g' (.tail _ hg') he l <| p.sublist.subset hl
      simp [stripFields, hs]
    case neg =>
      have hf : f ∈ fields := List.mem_of_ne_of_mem (Ne.symm hg) hf
      rw [stripFields, stripField_eq_self <| h g (.head _) hg]
      simp [ih hf fun g hg => h g (.tail _ hg)]

namespace Line

theorem isDeclaration_append (name rest : List Char) : IsDeclaration name (name ++ ':' :: rest) :=
  ⟨[], [], rest, by simp, rfl, rfl⟩

theorem endsWithComma_append (cs : List Char) {a : Char} (h : isBlank a = false) :
    endsWithComma (cs ++ [a]) = decide (a = ',') := by
  simp [endsWithComma, trimEnd, h]

end Line

theorem Detector.blank_mem_trigger (m : Marker) : ' ' ∈ m.trigger.toList := by
  cases m <;> decide

namespace Document

-- Two declarations of one name, of which the first is open and the second may continue it.
def declaredTwice (name : List Char) : Document :=
  [name ++ [':'], name ++ [':', ',']]

theorem not_blank_of_mem_declaredTwice (hb : Line.IsBareName name) :
    ∀ l ∈ declaredTwice name, ∀ c ∈ l, isBlank c = false := by
  have hn : ∀ c ∈ name, isBlank c = false := fun c hc => (hb.bare c hc).1
  have h : isBlank ':' = false ∧ isBlank ',' = false := by decide
  simpa [declaredTwice, or_imp, forall_and, h] using hn

theorem ofText_declaredTwice (hb : Line.IsBareName name) :
    ofText (declaredTwice name).toText = declaredTwice name := by
  refine ofText_toText (by simp [declaredTwice]) fun l hl hf => ?_
  exact absurd (not_blank_of_mem_declaredTwice hb l hl _ hf) <| by decide

theorem declaredTwice_unmarked (hb : Line.IsBareName name) (m : Marker) :
    ∀ l ∈ declaredTwice name, ¬m.trigger.toList <:+: l := by
  intro l hl hm
  have h := not_blank_of_mem_declaredTwice hb l hl ' ' <| hm.subset <| Detector.blank_mem_trigger m
  exact absurd h <| by decide

theorem isDeclaration_of_mem_declaredTwice (name : List Char) :
    ∀ l ∈ (declaredTwice name).numbered, l.line.IsDeclaration name := by
  simp [declaredTwice, numbered, Line.isDeclaration_append]

-- The second declaration goes with the first, under whose number the report has both.
theorem stripField_declaredTwice (hb : Line.IsBareName f.toList) (hp : ¬Line.IsPlainName f.toList) :
    stripField f (declaredTwice f.toList).numbered = ⟨[], [⟨f, 1, 2⟩]⟩ := by
  have hfirst : Line.declares f.toList (f.toList ++ [':']) :=
    Line.declares_iff.mpr <| Line.isDeclaration_append f.toList []
  have hopen : Line.endsWithComma (f.toList ++ [':']) = false :=
    Line.endsWithComma_append f.toList Line.isBlank_colon
  have hcomma : Line.endsWithComma (f.toList ++ [':', ',']) := by
    simpa using Line.endsWithComma_append (f.toList ++ [':']) (show isBlank ',' = false by decide)
  have hcont : Line.isContinuation (f.toList ++ [':', ',']) :=
    Line.isDeclaration_append f.toList [','] |>.isContinuation_iff hb |>.mpr ⟨hcomma, hp⟩
  simp [declaredTwice, numbered, stripField, hfirst, hopen, hcont, Stripping.remove]

end Document

namespace Config

theorem excise_of_declaredTwice (hb : Line.IsBareName f.toList)
    (ht : Document.ofText text.toList = .declaredTwice f.toList) :
    c.excise text = ⟨(Document.declaredTwice f.toList).numbered, {}⟩ :=
  ht ▸ excise_of_unmarked (ht ▸ fun l hl m _ => Document.declaredTwice_unmarked hb m l hl)

theorem removals_of_declaredTwice (hc : c.validate = .ok ()) (hf : f ∈ c.fields)
    (hp : ¬Line.IsPlainName f.toList)
    (ht : Document.ofText text.toList = .declaredTwice f.toList) :
    (c.prune text).removals = [⟨f, 1, 2⟩] := by
  have hb := isBareName_of_mem hc f hf
  have hg : ∀ g ∈ c.fields, g ≠ f → ∀ l ∈ (Document.declaredTwice f.toList).numbered,
      l.line.declares g.toList = false := by
    refine fun g hg hne l hl => Bool.eq_false_iff.mpr fun hd => hne ?_
    exact declared_unique hc hg hf (Line.declares_iff.mp hd) <|
      Document.isDeclaration_of_mem_declaredTwice _ l hl
  rw [prune_eq_residue (fields_ne_nil hc), residue, excise_of_declaredTwice hb ht,
    stripFields_eq_stripField hf hg, Document.stripField_declaredTwice hb hp]

theorem not_reports_of_declaredTwice (hc : c.validate = .ok ()) (hf : f ∈ c.fields)
    (hp : ¬Line.IsPlainName f.toList)
    (ht : Document.ofText text.toList = .declaredTwice f.toList) :
    ¬c.ReportsDeclarations f text := by
  intro h
  have hr := removals_of_declaredTwice hc hf hp ht
  have ho : ⟨1, f.toList ++ [':', ',']⟩ ∈ (c.prune text).outside (.ofText text.toList) := by
    rw [outside_eq, excise_of_declaredTwice (isBareName_of_mem hc f hf) ht]
    exact .tail _ <| .head _
  have := h _ ho <| Line.isDeclaration_append f.toList [',']
  simp [hr] at this

-- A declaration outside the blocks is reported unless it went with another one. Whether all those
-- of a field are reported, in every text, rests on its name alone.
theorem reports_declarations_iff (hc : c.validate = .ok ()) (hf : f ∈ c.fields) :
    (∀ text, c.SparesDeclarations f text ↔ c.ReportsDeclarations f text) ∧
    ((∀ text, c.ReportsDeclarations f text) ↔ Line.IsPlainName f.toList) := by
  refine ⟨spares_iff_reports hc hf, fun h => ?_, fun hp text => ?_⟩
  case refine_1 =>
    refine Decidable.by_contra fun hp => ?_
    refine not_reports_of_declaredTwice hc hf hp ?_ <| h <|
      String.ofList (Document.declaredTwice f.toList).toText
    rw [String.toList_ofList, Document.ofText_declaredTwice <| isBareName_of_mem hc f hf]
  case refine_2 => exact (spares_iff_reports hc hf text).mp <| spares_of_isPlainName hc hf hp text

theorem reports_declarations_of_one_name_only :
    let c : Config := { fields := ["delay", "größe"] }
    c.validate = .ok () ∧ "delay" ∈ c.fields ∧ "größe" ∈ c.fields ∧
      (∀ text, c.ReportsDeclarations "delay" text) ∧
      ¬∀ text, c.ReportsDeclarations "größe" text := by
  intro c
  have hc : c.validate = .ok () := rfl
  have hd : "delay" ∈ c.fields := by decide
  have hg : "größe" ∈ c.fields := by decide
  refine ⟨hc, hd, hg, (reports_declarations_iff hc hd).2.mpr ?_,
    mt (reports_declarations_iff hc hg).2.mp ?_⟩
  · decide +kernel
  · decide +kernel

-- The name of the second field is no identifier, so that its line passes for a part of the value of
-- the first.
theorem declarations_not_reported :
    ¬∀ (c : Config) (f text : String), c.validate = .ok () → f ∈ c.fields →
      c.ReportsDeclarations f text := by
  intro h
  have := h { fields := ["delay", "größe"] } "größe" "delay: 5\ngröße: 2," rfl (by decide)
  exact absurd this <| by decide +kernel

end Config

end TabPruning
