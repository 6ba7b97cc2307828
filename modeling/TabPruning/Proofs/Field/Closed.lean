import TabPruning.Proofs.Field.Completeness
import TabPruning.Proofs.Field.Declaration
import TabPruning.Proofs.Field.Renumbering

namespace TabPruning

variable {fields : List String} {ls kept : List NumberedLine} {xs : List Deletion} {l : Line}

def Line.declaresAny (fields : List String) (l : Line) : Bool :=
  fields.any (l.declares ·.toList)

theorem Line.declaresAny_iff : l.declaresAny fields ↔ ∃ f ∈ fields, l.IsDeclaration f.toList := by
  simp [declaresAny, declares_iff]

namespace Passes

theorem not_declaresAny (p : Passes fields ls kept xs) :
    ∀ n ∈ kept, n.line.declaresAny fields = false := by
  intro n hn
  simpa [Line.declaresAny] using fun f hf => p.not_declares f hf n hn

theorem declaresAny (p : Passes fields ls kept xs) :
    ∀ x ∈ xs, x.declaration.line.declaresAny fields :=
  fun x hx => List.any_eq_true.mpr ⟨x.field, p.field_mem x hx, (p.sound x hx).declared⟩

section

variable (p : Passes fields ls kept xs)
variable (h : ∀ n ∈ ls, ∀ f ∈ fields, n.line.declares f.toList → n.line.endsWithComma)

include p h

theorem continuation_eq_none : ∀ x ∈ xs, x.continuation = none := by
  intro x hx
  have hs := p.sound x hx
  have hc := h _ (p.declaration_mem x hx) _ (p.field_mem x hx) hs.declared
  refine Option.eq_none_iff_forall_not_mem.mpr fun n hn => ?_
  exact Bool.eq_false_iff.mp (hs.continued n hn).1 hc

theorem perm_declarations : ls.Perm (kept ++ xs.map (·.declaration)) := by
  have hl : ∀ x ∈ xs, x.lines = [x.declaration] := fun x hx => by
    rw [Deletion.lines, p.continuation_eq_none h x hx, Option.toList_none]
  rw [List.map_eq_flatMap, ← List.flatMap_congr hl]
  exact p.perm

-- The lines that declare one of the fields are deleted, each of them once.
theorem perm_filter : (ls.filter (·.line.declaresAny fields)).Perm (xs.map (·.declaration)) := by
  have hp := (p.perm_declarations h).filter (·.line.declaresAny fields)
  have hk : kept.filter (·.line.declaresAny fields) = [] :=
    List.filter_eq_nil_iff.mpr fun n hn => Bool.eq_false_iff.mp <| p.not_declaresAny n hn
  have hx : (xs.map (·.declaration)).filter (·.line.declaresAny fields) = xs.map (·.declaration) :=
    List.filter_eq_self.mpr <| List.forall_mem_map.mpr p.declaresAny
  rwa [List.filter_append, hk, hx, List.nil_append] at hp

theorem kept_eq_filter : kept = ls.filter (!·.line.declaresAny fields) := by
  have hk : kept.filter (!·.line.declaresAny fields) = kept :=
    List.filter_eq_self.mpr fun n hn => by rw [p.not_declaresAny n hn, Bool.not_false]
  have hs := p.sublist.filter (!·.line.declaresAny fields)
  have hp := (p.perm_declarations h).filter (!·.line.declaresAny fields)
  have hx : (xs.map (·.declaration)).filter (!·.line.declaresAny fields) = [] :=
    List.filter_eq_nil_iff.mpr <| List.forall_mem_map.mpr fun x hx => by simp [p.declaresAny x hx]
  rw [List.filter_append, hk, hx, List.append_nil] at hp
  exact (hk ▸ hs).eq_of_length hp.length_eq.symm

end

end Passes

namespace Document

variable {d : Document}

theorem closed_of_numbered (h : ∀ l ∈ d, ∀ f ∈ fields, l.IsDeclaration f.toList → l.endsWithComma) :
    ∀ n ∈ d.numbered, ∀ f ∈ fields, n.line.declares f.toList → n.line.endsWithComma :=
  fun n hn f hf hd =>
    h n.line (List.mem_of_getElem? <| mem_numbered_iff.mp hn) f hf <| Line.declares_iff.mp hd

theorem toText_strip_of_closed
    (h : ∀ l ∈ d, ∀ f ∈ fields, l.IsDeclaration f.toList → l.endsWithComma) :
    (d.strip fields).toText =
      toText (d.filter fun l => ∀ f ∈ fields, ¬l.IsDeclaration f.toList) := by
  have ⟨xs, p, _⟩ := stripFields_passes fields d.numbered
  have hq : (fun l : Line => !l.declaresAny fields) =
      fun l => decide (∀ f ∈ fields, ¬l.IsDeclaration f.toList) := by
    funext l
    rw [Bool.eq_iff_iff, Bool.not_eq_true', ← Bool.not_eq_true, Line.declaresAny_iff]
    simp
  rw [Stripping.toText, strip, p.kept_eq_filter <| closed_of_numbered h, ← hq]
  conv => rhs; rw [← d.numbered_lines, List.filter_map]
  rfl

-- Where the declarations of all fields are closed, exactly the lines that declare none of them are
-- left, the others are reported alone and once, and the fields may as well be listed in another
-- order or repeatedly.
theorem strip_of_closed {text : List Char}
    (h : ∀ l ∈ ofText text, ∀ f ∈ fields, l.IsDeclaration f.toList → l.endsWithComma) :
    let d := ofText text
    let s := d.strip fields
    s.toText = toText (d.filter fun l => ∀ f ∈ fields, ¬l.IsDeclaration f.toList) ∧
    (∀ r ∈ s.removals, r.linesRemoved = 1) ∧
    (s.removals.map (·.line)).Perm
      ((d.numbered.filter fun n => ∃ f ∈ fields, n.line.IsDeclaration f.toList).map (·.index + 1)) ∧
    ∀ fields' : List String, (∀ f, f ∈ fields' ↔ f ∈ fields) →
      (d.strip fields').toText = s.toText := by
  intro d s
  have ⟨xs, p, hr⟩ := stripFields_passes fields d.numbered
  have hn := closed_of_numbered h
  have hr : s.removals = xs.map Deletion.removal := hr
  refine ⟨toText_strip_of_closed h, ?alone, ?once, fun fields' hf => ?order⟩
  case alone =>
    rw [hr, List.forall_mem_map]
    intro x hx
    rw [Deletion.removal, Deletion.lines, p.continuation_eq_none hn x hx]
    rfl
  case once =>
    have hq : (fun n : NumberedLine => n.line.declaresAny fields) =
        fun n => decide (∃ f ∈ fields, n.line.IsDeclaration f.toList) := by
      funext n
      rw [Bool.eq_iff_iff, decide_eq_true_iff, Line.declaresAny_iff]
    have hp := ((p.perm_filter hn).map (·.index + 1)).symm
    rw [hq, List.map_map] at hp
    rw [hr, List.map_map]
    exact hp
  case order =>
    have hs' := toText_strip_of_closed fun l hl f hm => h l hl f <| (hf f).mp hm
    simp only [hf] at hs'
    exact hs'.trans (toText_strip_of_closed h).symm

-- The first line declares two of the fields, and is reported for the one that is listed first.
theorem strip_of_closed_of_overlapping_names :
    let d := ofText " a: 1,\nb : 2, \na:,\nc: 3".toList
    (∀ l ∈ d, ∀ f ∈ [" a", "a", "b"], l.IsDeclaration f.toList → l.endsWithComma) ∧
      (d.strip [" a", "a", "b"]).toText = "c: 3".toList ∧
      (d.strip ["b", "a", " a", "b"]).toText = "c: 3".toList := by
  intro d
  have h : ∀ l ∈ d, ∀ f ∈ [" a", "a", "b"], l.IsDeclaration f.toList → l.endsWithComma := by
    decide +kernel
  have ⟨ht, _, _, hp⟩ := strip_of_closed h
  have ht : (d.strip [" a", "a", "b"]).toText = "c: 3".toList := ht.trans <| by decide +kernel
  exact ⟨h, ht, (hp _ fun f => by grind).trans ht⟩

end Document

end TabPruning
