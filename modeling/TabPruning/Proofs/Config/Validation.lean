import Mathlib.Data.List.DropRight
import TabPruning.Run

namespace TabPruning.Config

theorem validate_eq_ok_iff {c : Config} : c.validate = .ok () ↔ c.defect? = none := by
  unfold validate
  split <;> simp_all

theorem fieldDefect?_eq_none_iff {seen names : List String} :
    fieldDefect? seen names = none ↔
      (∀ name ∈ names, name.toList.all isBlank = false ∧ isBare name ∧ name ∉ seen) ∧
        names.Nodup := by
  induction names generalizing seen
  case nil => simp [fieldDefect?]
  case cons name names ih =>
    rw [fieldDefect?, List.forall_mem_cons, List.nodup_cons]
    split
    case isTrue hb => simp [hb]
    case isFalse hb =>
      split
      case isTrue hn => simp_all
      case isFalse hn =>
        split
        case isTrue hs => simp [hs]
        case isFalse hs =>
          simp only [ih, List.mem_cons]
          grind

theorem fieldDefect?_fields {c : Config} (h : c.validate = .ok ()) :
    fieldDefect? [] c.fields = none := by
  have hd := validate_eq_ok_iff.mp h
  rw [defect?] at hd
  split at hd
  case isTrue  => cases hd
  case isFalse => exact hd

theorem fields_ne_nil {c : Config} (h : c.validate = .ok ()) : ∀ f ∈ c.fields, f.toList ≠ [] := by
  intro f hf hn
  have := fieldDefect?_eq_none_iff.mp (fieldDefect?_fields h) |>.1 f hf |>.1
  simp [hn] at this

theorem fields_bare {c : Config} (h : c.validate = .ok ()) : ∀ f ∈ c.fields, isBare f :=
  fun f hf => fieldDefect?_eq_none_iff.mp (fieldDefect?_fields h) |>.1 f hf |>.2.1

theorem fields_nodup {c : Config} (h : c.validate = .ok ()) : c.fields.Nodup :=
  fieldDefect?_eq_none_iff.mp (fieldDefect?_fields h) |>.2

theorem trim_eq_nil_iff {cs : List Char} : trim cs = [] ↔ ∀ c ∈ cs, isBlank c := by
  have he : trimEnd cs = cs.rdropWhile isBlank := rfl
  rw [trim, trimStart, List.dropWhile_eq_nil_iff, he, ← List.rdropWhile_eq_nil_iff,
    List.rdropWhile_idempotent, List.rdropWhile_eq_nil_iff]

theorem isBare_iff {name : String} :
    isBare name ↔ ∀ c ∈ name.toList, isBlank c = false ∧ c ≠ ':' := by
  simp [isBare]

theorem not_isBare_iff {name : String} : !isBare name ↔ ∃ c ∈ name.toList, isBlank c ∨ c = ':' := by
  simp [isBare, ← Bool.not_eq_true, Classical.or_iff_not_imp_left]

-- Names as fields may have them: none is empty, none holds white space or a colon, and none is
-- listed twice.
structure WellNamed (names : List String) : Prop where
  nonempty : ∀ n ∈ names, n ≠ ""
  bare     : ∀ n ∈ names, ∀ c ∈ n.toList, isBlank c = false ∧ c ≠ ':'
  distinct : names.Nodup

-- What is wrong with a name that comes after these, by the first test that it fails.
inductive Blames (before : List String) (name : String) : Defect → Prop
  | blank : trim name.toList = [] → Blames before name .blankField
  | notBare : trim name.toList ≠ [] → (∃ c ∈ name.toList, isBlank c ∨ c = ':') →
    Blames before name (.notBareField name)
  | repeated : trim name.toList ≠ [] → (∀ c ∈ name.toList, isBlank c = false ∧ c ≠ ':') →
    name ∈ before → Blames before name (.repeatedField name)

def nameDefect? (before : List String) (name : String) : Option Defect :=
  if name.toList.all isBlank then some .blankField
  else if !isBare name then some (.notBareField name)
  else if name ∈ before then some (.repeatedField name)
  else none

theorem fieldDefect?_cons {seen names : List String} {name : String} :
    fieldDefect? seen (name :: names) =
      (nameDefect? seen name).or (fieldDefect? (name :: seen) names) := by
  rw [fieldDefect?, nameDefect?]
  repeat' split
  all_goals rfl

theorem nameDefect?_eq_some_iff {before : List String} {name : String} {d : Defect} :
    nameDefect? before name = some d ↔ Blames before name d := by
  have ht : name.toList.all isBlank ↔ trim name.toList = [] := by
    rw [trim_eq_nil_iff, List.all_eq_true]
  rw [nameDefect?]
  constructor
  case mp =>
    intro h
    split at h
    case isTrue hb => cases h; exact .blank <| ht.mp hb
    case isFalse hb =>
      have hb : trim name.toList ≠ [] := mt ht.mpr hb
      split at h
      case isTrue hn => cases h; exact .notBare hb <| not_isBare_iff.mp hn
      case isFalse hn =>
        split at h <;> cases h
        exact .repeated hb (isBare_iff.mp <| by simpa using hn) ‹_›
  case mpr =>
    rintro (hb | ⟨hb, hn⟩ | ⟨hb, hn, hm⟩)
    case blank => rw [if_pos (ht.mpr hb)]
    case notBare => rw [if_neg (mt ht.mp hb), if_pos (not_isBare_iff.mpr hn)]
    case repeated =>
      rw [if_neg (mt ht.mp hb), if_neg (by simp [isBare_iff.mpr hn]), if_pos hm]

theorem blames_reverse {before : List String} {name : String} {d : Defect} :
    Blames before.reverse name d ↔ Blames before name d := by
  simp only [← nameDefect?_eq_some_iff, nameDefect?, List.mem_reverse]

theorem fieldDefect?_eq_some_iff {seen names : List String} {d : Defect} :
    fieldDefect? seen names = some d ↔
      ∃ before name after, names = before ++ name :: after ∧ fieldDefect? seen before = none ∧
        Blames (before.reverse ++ seen) name d := by
  induction names generalizing seen
  case nil => simp [fieldDefect?]
  case cons name names ih =>
    rw [fieldDefect?_cons, Option.or_eq_some_iff, nameDefect?_eq_some_iff, ih]
    constructor
    case mp =>
      rintro (h | ⟨hn, before, name', after, rfl, hb, h⟩)
      case inl => exact ⟨[], name, names, rfl, rfl, h⟩
      case inr =>
        refine ⟨name :: before, name', after, rfl, ?_, ?_⟩
        · rw [fieldDefect?_cons, hn, hb]; rfl
        · rwa [List.reverse_cons, List.append_assoc]
    case mpr =>
      rintro ⟨_ | ⟨first, before⟩, name', after, he, hb, h⟩ <;> cases he
      case nil => exact .inl h
      case cons =>
        rw [fieldDefect?_cons, Option.or_eq_none_iff] at hb
        refine .inr ⟨hb.1, before, name', after, rfl, hb.2, ?_⟩
        rwa [List.reverse_cons, List.append_assoc] at h

theorem fieldDefect?_nil_eq_none_iff {names : List String} :
    fieldDefect? [] names = none ↔ WellNamed names := by
  rw [fieldDefect?_eq_none_iff]
  constructor
  case mp =>
    rintro ⟨h, hd⟩
    exact {
      nonempty n hn := by rintro rfl; cases (h _ hn).1
      bare n hn     := isBare_iff.mp (h n hn).2.1
      distinct      := hd }
  case mpr =>
    intro h
    refine ⟨fun n hn => ⟨?_, isBare_iff.mpr (h.bare n hn), List.not_mem_nil⟩, h.distinct⟩
    obtain ⟨c, hc⟩ := List.exists_mem_of_ne_nil n.toList <| by simpa using h.nonempty n hn
    exact List.all_eq_false.mpr ⟨c, hc, by simp [(h.bare n hn c hc).1]⟩

theorem validate_eq_error_iff {c : Config} {e : PruneError} :
    c.validate = .error e ↔ ∃ d, c.defect? = some d ∧ e = .invalidConfig d.message := by
  rw [validate]
  cases c.defect? <;> simp [eq_comm]

-- The defect of settings that have one: the lack of markers comes first, then the names in their
-- order, where those before the one to blame are all as they may be.
inductive FirstDefect (c : Config) : Defect → Prop
  | markers : c.markers = [] → FirstDefect c .noMarkers
  | field {before name after d} : c.markers ≠ [] → c.fields = before ++ name :: after →
    WellNamed before → Blames before name d → FirstDefect c d

theorem defect?_eq_none_iff {c : Config} :
    c.defect? = none ↔ c.markers ≠ [] ∧ WellNamed c.fields := by
  rw [defect?, ← fieldDefect?_nil_eq_none_iff]
  split <;> simp_all

theorem defect?_eq_some_iff {c : Config} {d : Defect} : c.defect? = some d ↔ c.FirstDefect d := by
  rw [defect?]
  constructor
  case mp =>
    intro h
    split at h
    case isTrue hm => cases h; exact .markers hm
    case isFalse hm =>
      obtain ⟨before, name, after, he, hb, hd⟩ := fieldDefect?_eq_some_iff.mp h
      exact .field hm he (fieldDefect?_nil_eq_none_iff.mp hb)
        (blames_reverse.mp <| by simpa using hd)
  case mpr =>
    rintro (hm | ⟨hm, he, hw, hd⟩)
    case markers => rw [if_pos hm]
    case field before name after =>
      rw [if_neg hm]
      exact fieldDefect?_eq_some_iff.mpr
        ⟨before, name, after, he, fieldDefect?_nil_eq_none_iff.mpr hw,
          by simpa using blames_reverse.mpr hd⟩

-- Settings pass if they have a marker and well-named fields. Others are refused for having no
-- marker, or else for the first of their names that has a defect.
theorem validate_blames_first (c : Config) :
    (c.validate = .ok () ↔ c.markers ≠ [] ∧ WellNamed c.fields) ∧
    ∀ e, c.validate = .error e ↔ ∃ d, c.FirstDefect d ∧ e = .invalidConfig d.message := by
  refine ⟨validate_eq_ok_iff.trans defect?_eq_none_iff, fun e => ?_⟩
  simp only [validate_eq_error_iff, defect?_eq_some_iff]

end TabPruning.Config
