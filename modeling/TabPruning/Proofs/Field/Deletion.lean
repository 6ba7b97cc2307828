import TabPruning.Field

namespace TabPruning

-- A removed declaration, with the line that continued it if there was one.
structure Deletion where
  field        : String
  declaration  : NumberedLine
  continuation : Option NumberedLine

namespace Deletion

def lines (x : Deletion) : List NumberedLine :=
  x.declaration :: x.continuation.toList

def removal (x : Deletion) : FieldRemoval :=
  ⟨x.field, x.declaration.index + 1, x.lines.length⟩

structure Sound (x : Deletion) : Prop where
  declared  : x.declaration.line.declares x.field.toList
  continued : ∀ n ∈ x.continuation,
    x.declaration.line.endsWithComma = false ∧ n.line.isContinuation

end Deletion

-- One pass: the lines, those of them that are kept, and the deletions of the others.
inductive Pass (field : String) : List NumberedLine → List NumberedLine → List Deletion → Prop
  | done   : Pass field [] [] []
  | keep   : (l.line.declares field.toList = false) → (Pass field ls kept xs) →
    Pass field (l :: ls) (l :: kept) xs
  | single : (l.line.declares field.toList) →
    (∀ next ∈ ls.head?, l.line.endsWithComma ∨ next.line.isContinuation = false) →
    (Pass field ls kept xs) → Pass field (l :: ls) kept (⟨field, l, none⟩ :: xs)
  | double : (l.line.declares field.toList) → (l.line.endsWithComma = false) →
    (next.line.isContinuation) → (Pass field ls kept xs) →
    Pass field (l :: next :: ls) kept (⟨field, l, some next⟩ :: xs)

-- One pass per field, each over what the one before it kept.
inductive Passes : List String → List NumberedLine → List NumberedLine → List Deletion → Prop
  | nil  : Passes [] ls ls []
  | cons : (Pass field ls mid xs) → (Passes fields mid kept ys) →
    Passes (field :: fields) ls kept (xs ++ ys)

variable {field : String} {fields : List String} {ls mid kept : List NumberedLine}
variable {xs ys : List Deletion}

theorem stripField_eq_self (h : ∀ l ∈ ls, l.line.declares field.toList = false) :
    stripField field ls = ⟨ls, []⟩ := by
  fun_induction stripField field ls <;> simp_all [Stripping.keep]

theorem stripFields_eq_self (h : ∀ f ∈ fields, ∀ l ∈ ls, l.line.declares f.toList = false) :
    stripFields fields ls = ⟨ls, []⟩ := by
  induction fields
  case nil => rfl
  case cons field fields ih =>
    have ⟨hf, hfs⟩ := List.forall_mem_cons.mp h
    simp [stripFields, stripField_eq_self hf, ih hfs]

theorem stripField_pass (field : String) (ls : List NumberedLine) :
    ∃ xs, Pass field ls (stripField field ls).kept xs ∧
      (stripField field ls).removals = xs.map Deletion.removal := by
  fun_induction stripField field ls
  case case1   => exact ⟨_, .done, rfl⟩
  case case2 h => exact ⟨_, .single h nofun .done, rfl⟩
  case case3 h => exact ⟨_, .keep (by simpa using h) .done, rfl⟩
  case case4 h ih =>
    have ⟨xs, p, hr⟩ := ih
    exact ⟨xs, .keep (by simpa using h) p, hr⟩
  case case5 h hc ih =>
    have ⟨xs, p, hr⟩ := ih
    simp only [Bool.not_eq_eq_eq_not, Bool.not_true, Bool.not_eq_false, Bool.and_eq_true] at h hc
    exact ⟨_, .double h hc.1 hc.2 p, congrArg (_ :: ·) hr⟩
  case case6 h hc ih =>
    have ⟨xs, p, hr⟩ := ih
    refine ⟨_, .single (by simpa using h) ?_ p, congrArg (_ :: ·) hr⟩
    intro next hn
    cases hn
    simpa [Classical.or_iff_not_imp_left] using hc

theorem stripFields_passes (fields : List String) (ls : List NumberedLine) :
    ∃ xs, Passes fields ls (stripFields fields ls).kept xs ∧
      (stripFields fields ls).removals = xs.map Deletion.removal := by
  induction fields generalizing ls
  case nil => exact ⟨[], .nil, rfl⟩
  case cons field _ ih =>
    have ⟨xs, p, hx⟩ := stripField_pass field ls
    have ⟨ys, ps, hy⟩ := ih (stripField field ls).kept
    exact ⟨xs ++ ys, .cons p ps, by simp [stripFields, hx, hy]⟩

namespace Pass

theorem perm (p : Pass field ls kept xs) : ls.Perm (kept ++ xs.flatMap Deletion.lines) := by
  induction p
  case done      => exact .refl _
  case keep ih   => exact ih.cons _
  case single ih => exact (ih.cons _).trans List.perm_middle.symm
  case double ih =>
    refine ((ih.cons _).cons _).trans ?_
    exact (List.perm_middle.symm.cons _).trans List.perm_middle.symm

theorem sublist (p : Pass field ls kept xs) : kept.Sublist ls := by
  induction p
  case done      => exact .slnil
  case keep ih   => exact ih.cons_cons _
  case single ih => exact ih.cons _
  case double ih => exact (ih.cons _).cons _

theorem not_declares (p : Pass field ls kept xs) :
    ∀ l ∈ kept, l.line.declares field.toList = false := by
  induction p
  case done        => exact nofun
  case keep h _ ih => exact List.forall_mem_cons.mpr ⟨h, ih⟩
  case single ih   => exact ih
  case double ih   => exact ih

theorem sound (p : Pass field ls kept xs) : ∀ x ∈ xs, x.Sound := by
  induction p
  case done          => exact nofun
  case keep ih       => exact ih
  case single h _ _ ih => exact List.forall_mem_cons.mpr ⟨⟨h, nofun⟩, ih⟩
  case double h hc hn _ ih =>
    refine List.forall_mem_cons.mpr ⟨⟨h, fun n hm => ?_⟩, ih⟩
    cases hm
    exact ⟨hc, hn⟩

-- The lines of a deletion stood together when the pass came to them.
theorem lines_infix (p : Pass field ls kept xs) : ∀ x ∈ xs, x.lines <:+: ls := by
  induction p
  case done    => exact nofun
  case keep ih => exact fun x hx => (ih x hx).trans (List.suffix_cons ..).isInfix
  case single ih =>
    refine List.forall_mem_cons.mpr ⟨⟨[], _, rfl⟩, fun x hx => ?_⟩
    exact (ih x hx).trans (List.suffix_cons ..).isInfix
  case double ih =>
    refine List.forall_mem_cons.mpr ⟨⟨[], _, rfl⟩, fun x hx => ?_⟩
    exact (ih x hx).trans <| (List.suffix_append [_, _] _).isInfix

end Pass

theorem between_of_infix (h : [a, b] <:+: ls) (ho : ls.Pairwise (·.index < ·.index)) :
    a.index < b.index ∧ ∀ l ∈ ls, l.index ≤ a.index ∨ b.index ≤ l.index := by
  have ⟨before, after, h⟩ := h
  subst h
  simp only [List.pairwise_append, List.pairwise_cons, List.mem_append, List.mem_cons] at ho ⊢
  grind

namespace Passes

theorem perm (p : Passes fields ls kept xs) : ls.Perm (kept ++ xs.flatMap Deletion.lines) := by
  induction p
  case nil => simp
  case cons p _ ih =>
    rw [List.flatMap_append]
    refine p.perm.trans <| (ih.append_right _).trans ?_
    rw [List.append_assoc]
    exact List.perm_append_comm.append_left _

theorem sublist (p : Passes fields ls kept xs) : kept.Sublist ls := by
  induction p
  case nil         => exact .refl _
  case cons p _ ih => exact ih.trans p.sublist

theorem not_declares (p : Passes fields ls kept xs) :
    ∀ field ∈ fields, ∀ l ∈ kept, l.line.declares field.toList = false := by
  induction p
  case nil           => exact nofun
  case cons p ps ih =>
    exact List.forall_mem_cons.mpr ⟨fun l hl => p.not_declares l <| ps.sublist.subset hl, ih⟩

theorem sound (p : Passes fields ls kept xs) : ∀ x ∈ xs, x.Sound := by
  induction p
  case nil         => exact nofun
  case cons p _ ih => exact List.forall_mem_append.mpr ⟨p.sound, ih⟩

theorem declaration_mem (p : Passes fields ls kept xs) : ∀ x ∈ xs, x.declaration ∈ ls :=
  fun x hx => p.perm.mem_iff.mpr <| List.mem_append_right _ <|
    List.mem_flatMap.mpr ⟨x, hx, List.mem_cons_self⟩

-- No line is left between a declaration and its continuation.
theorem between (p : Passes fields ls kept xs) (ho : ls.Pairwise (·.index < ·.index)) :
    ∀ x ∈ xs, ∀ n ∈ x.continuation, x.declaration.index < n.index ∧
      ∀ l ∈ kept, l.index ≤ x.declaration.index ∨ n.index ≤ l.index := by
  induction p
  case nil => exact nofun
  case cons p ps ih =>
    refine List.forall_mem_append.mpr ⟨fun x hx n hn => ?_, ih (ho.sublist p.sublist)⟩
    have hl := p.lines_infix x hx
    rw [Deletion.lines, hn] at hl
    have ⟨hlt, hb⟩ := between_of_infix hl ho
    exact ⟨hlt, fun l hm => hb l <| p.sublist.subset <| ps.sublist.subset hm⟩

end Passes

theorem stripFields_sublist (fields : List String) (ls : List NumberedLine) :
    (stripFields fields ls).kept.Sublist ls := by
  have ⟨_, p, _⟩ := stripFields_passes fields ls
  exact p.sublist

end TabPruning
