import Mathlib.Data.List.Basic
import TabPruning.Files.Tree

namespace TabPruning.FileTree

variable {t : FileTree} {p q : Place} {e : Entry}

theorem lookup_cons_eq (r : Place) (e : Entry) (es : List (Place × Entry)) :
    ((r, e) :: es).lookup q = if q = r then some e else es.lookup q := by
  rw [List.lookup_cons]
  by_cases h : q = r
  case pos => simp [h]
  case neg => rw [beq_false_of_ne h, if_neg h]

theorem lookup_map_set (es : List (Place × Entry)) :
    (es.map fun x => if x.1 = p then (p, e) else x).lookup q =
      (es.lookup q).map fun e' => if q = p then e else e' := by
  induction es
  case nil => rfl
  case cons x es ih =>
    obtain ⟨r, e'⟩ := x
    by_cases hr : r = p <;> by_cases hq : q = r <;> simp_all [lookup_cons_eq]

theorem lookup_filter_ne (es : List (Place × Entry)) :
    (es.filter (·.1 ≠ p)).lookup q = if q = p then none else es.lookup q := by
  induction es
  case nil => simp
  case cons x es ih =>
    obtain ⟨r, e'⟩ := x
    rw [List.filter_cons, lookup_cons_eq]
    by_cases hr : r = p
    case pos =>
      rw [if_neg (by simp [hr]), ih, hr]
      split_ifs <;> rfl
    case neg =>
      rw [if_pos (by simp [hr]), lookup_cons_eq, ih]
      split_ifs <;> simp_all

theorem any_eq_isSome_get? (t : FileTree) (p : Place) :
    t.entries.any (·.1 = p) = (t.get? p).isSome := by
  obtain ⟨es⟩ := t
  rw [get?]
  induction es
  case nil => rfl
  case cons x es ih =>
    obtain ⟨r, e'⟩ := x
    rw [List.any_cons, lookup_cons_eq, ih]
    by_cases hr : p = r <;> simp [hr, eq_comm]

theorem get?_set (t : FileTree) (p q : Place) (e : Entry) :
    (t.set p e).get? q = if q = p then some e else t.get? q := by
  rw [set, any_eq_isSome_get?]
  cases h : t.get? p
  case none =>
    rw [Option.isSome_none, if_neg Bool.false_ne_true, get?, List.lookup_append, lookup_cons_eq]
    split_ifs with hq
    case pos => rw [hq, ← get?, h, Option.none_or]
    case neg => rw [List.lookup_nil, Option.or_none, get?]
  case some e' =>
    rw [Option.isSome_some, if_pos rfl, get?, lookup_map_set, ← get?]
    split_ifs with hq
    case pos => rw [hq, h, Option.map_some]
    case neg => exact Option.map_id'

theorem get?_erase (t : FileTree) (p q : Place) :
    (t.erase p).get? q = if q = p then none else t.get? q :=
  lookup_filter_ne t.entries

theorem erase_of_get? (h : t.get? p = none) : t.erase p = t := by
  have ha := any_eq_isSome_get? t p
  rw [h, Option.isSome_none, List.any_eq_false] at ha
  exact congrArg mk <| List.filter_eq_self.mpr <| by simpa using ha

theorem erase_set (t : FileTree) (p : Place) (e : Entry) : (t.set p e).erase p = t.erase p := by
  have h (es : List (Place × Entry)) :
      (es.map fun x => if x.1 = p then (p, e) else x).filter (·.1 ≠ p) = es.filter (·.1 ≠ p) := by
    induction es
    case nil => rfl
    case cons x es ih => by_cases hx : x.1 = p <;> simp_all
  rw [set, erase, erase, mk.injEq]
  split_ifs
  case pos => exact h _
  case neg => simp

theorem lt_length_temporaryName (zeros : Nat) : zeros < (temporaryName zeros).length := by
  have h : ".tmp".length = 4 := by decide
  rw [temporaryName, String.length_append, String.length_ofList (l := List.replicate ..),
    List.length_replicate, h]
  omega

theorem length_lt_unusedName {x : Place × Entry} {name : String} {directory : Place}
    (hx : x ∈ t.entries) (h : x.1 = name :: directory) :
    name.length < (t.unusedName directory).length := by
  rw [unusedName]
  refine Nat.lt_of_le_of_lt ?_ (lt_length_temporaryName _)
  rw [List.foldl_max, Nat.zero_max]
  refine List.le_max?_getD_of_mem ?_
  simp only [List.mem_map, List.mem_filter]
  exact ⟨name, ⟨x, ⟨hx, by simp [h]⟩, by simp [h]⟩, rfl⟩

theorem get?_unusedName (t : FileTree) (directory : Place) :
    t.get? (t.unusedName directory :: directory) = none := by
  have ha := any_eq_isSome_get? t (t.unusedName directory :: directory)
  rw [← Option.not_isSome_iff_eq_none, ← ha, List.any_eq_true]
  intro ⟨x, hx, he⟩
  exact Nat.lt_irrefl _ <| length_lt_unusedName hx <| of_decide_eq_true he

end TabPruning.FileTree
