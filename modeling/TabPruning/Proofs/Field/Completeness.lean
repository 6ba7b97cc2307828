import Mathlib.Data.List.Basic
import TabPruning.Proofs.Field.Deletion

namespace TabPruning

-- The field and the declaration of each deletion.
def Deletion.heads (xs : List Deletion) : List (String × NumberedLine) :=
  xs.map fun x => (x.field, x.declaration)

-- The lines that declare a field, with it.
def declarations (ls : List NumberedLine) (field : String) : List (String × NumberedLine) :=
  (ls.filter fun l => l.line.declares field.toList).map (field, ·)

variable {field : String} {fields : List String} {ls kept : List NumberedLine}
variable {xs : List Deletion}

theorem declarations_cons (l : NumberedLine) (ls : List NumberedLine) (field : String) :
    declarations (l :: ls) field =
      if l.line.declares field.toList then (field, l) :: declarations ls field
      else declarations ls field := by
  cases h : l.line.declares field.toList <;> simp [declarations, h]

namespace Pass

theorem field_eq (p : Pass field ls kept xs) : ∀ x ∈ xs, x.field = field := by
  induction p
  case done      => exact nofun
  case keep ih   => exact ih
  case single ih => exact List.forall_mem_cons.mpr ⟨rfl, ih⟩
  case double ih => exact List.forall_mem_cons.mpr ⟨rfl, ih⟩

theorem heads_eq (p : Pass field ls kept xs)
    (h : ∀ l ∈ ls, l.line.isContinuation → l.line.declares field.toList = false) :
    Deletion.heads xs = declarations ls field := by
  induction p
  case done => rfl
  case keep hd _ ih =>
    rw [declarations_cons, hd, ← ih fun l hl => h l <| .tail _ hl]
    rfl
  case single hd _ _ ih =>
    rw [declarations_cons, hd, ← ih fun l hl => h l <| .tail _ hl]
    rfl
  case double hd _ hn _ ih =>
    have hnext := h _ (.tail _ <| .head _) hn
    rw [declarations_cons, hd, declarations_cons, hnext,
      ← ih fun l hl => h l <| .tail _ <| .tail _ hl]
    rfl

-- A pass keeps the lines that are neither declarations of its field nor continuations.
theorem filter_eq {q : NumberedLine → Bool} (p : Pass field ls kept xs)
    (h : ∀ l ∈ ls, l.line.declares field.toList ∨ l.line.isContinuation → q l = false) :
    kept.filter q = ls.filter q := by
  induction p
  case done => rfl
  case keep ih => simp [List.filter_cons, ih fun l hl => h l <| .tail _ hl]
  case single hd _ _ ih =>
    have hl := h _ (.head _) (.inl hd)
    simp [hl, ih fun l hl => h l <| .tail _ hl]
  case double hd _ hn _ ih =>
    have hl := h _ (.head _) (.inl hd)
    have hnext := h _ (.tail _ <| .head _) (.inr hn)
    simp [hl, hnext, ih fun l hl => h l <| .tail _ <| .tail _ hl]

end Pass

namespace Passes

theorem field_mem (p : Passes fields ls kept xs) : ∀ x ∈ xs, x.field ∈ fields := by
  induction p
  case nil => exact nofun
  case cons p _ ih =>
    refine List.forall_mem_append.mpr ⟨fun x hx => ?_, fun x hx => .tail _ <| ih x hx⟩
    exact p.field_eq x hx ▸ .head _

theorem heads_eq (p : Passes fields ls kept xs) (hn : fields.Nodup)
    (hu : ∀ l ∈ ls, ∀ f ∈ fields, ∀ g ∈ fields,
      l.line.declares f.toList → l.line.declares g.toList → f = g)
    (h : ∀ l ∈ ls, ∀ f ∈ fields, l.line.isContinuation → l.line.declares f.toList = false) :
    Deletion.heads xs = fields.flatMap (declarations ls) := by
  induction p
  case nil => rfl
  case cons field ls mid xs fields kept ys p _ ih =>
    have ⟨hf, hn⟩ := List.nodup_cons.mp hn
    have hmid := p.sublist.subset
    have hys := ih hn (fun l hl f hf g hg => hu l (hmid hl) f (.tail _ hf) g (.tail _ hg))
      (fun l hl f hf => h l (hmid hl) f (.tail _ hf))
    have hrest : fields.flatMap (declarations mid) = fields.flatMap (declarations ls) := by
      refine List.flatMap_congr fun g hg => ?_
      rw [declarations, p.filter_eq, declarations]
      rintro l hl (hd | hc)
      case inl =>
        refine Bool.eq_false_iff.mpr fun hd' => hf ?_
        exact hu l hl _ (.head _) g (.tail _ hg) hd hd' ▸ hg
      case inr => exact h l hl g (.tail _ hg) hc
    rw [Deletion.heads, List.map_append, ← Deletion.heads, ← Deletion.heads,
      p.heads_eq fun l hl => h l hl _ (.head _), hys, hrest, List.flatMap_cons]

end Passes

end TabPruning
