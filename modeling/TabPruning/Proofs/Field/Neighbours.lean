import TabPruning.Proofs.Field.Declaration
import TabPruning.Proofs.Field.Renumbering
import TabPruning.Proofs.Field.Scan

namespace TabPruning

variable {d : Document} {field : String} {i : Nat} {l : Line} {n : NumberedLine}
  {ls kept : List NumberedLine} {xs : List Deletion}

namespace Document

-- The line is the rest of a declaration of the field that the line before it leaves open.
structure Continues (d : Document) (field : String) (i : Nat) : Prop where
  later     : 0 < i
  declared  : ∃ l ∈ d[i - 1]?, l.IsDeclaration field.toList ∧ l.endsWithComma = false
  continues : ∃ l ∈ d[i]?, l.endsWithComma ∧ l.declaresSome = false ∧ l.startsWithCloser = false

instance : Decidable (d.Continues field i) :=
  decidable_of_iff
    (0 < i ∧ (∃ l ∈ d[i - 1]?, l.IsDeclaration field.toList ∧ l.endsWithComma = false) ∧
      ∃ l ∈ d[i]?, l.endsWithComma ∧ l.declaresSome = false ∧ l.startsWithCloser = false)
    ⟨fun ⟨later, declared, continues⟩ => ⟨later, declared, continues⟩,
      fun ⟨later, declared, continues⟩ => ⟨later, declared, continues⟩⟩

theorem not_continues_zero : ¬d.Continues field 0 :=
  fun h => absurd h.later (Nat.lt_irrefl 0)

theorem continues_succ_iff (hl : d[i]? = some l) :
    d.Continues field (i + 1) ↔
      l.IsDeclaration field.toList ∧ l.endsWithComma = false ∧
        ∃ l' ∈ d[i + 1]?, l'.isContinuation := by
  have hc (l' : Line) : l'.isContinuation ↔
      l'.endsWithComma ∧ l'.declaresSome = false ∧ l'.startsWithCloser = false := by
    simp [Line.isContinuation, and_assoc]
  simp only [hc]
  constructor
  case mp =>
    rintro ⟨_, ⟨_, hl', hd, he⟩, hc⟩
    cases hl.symm.trans hl'
    exact ⟨hd, he, hc⟩
  case mpr =>
    rintro ⟨hd, he, hc⟩
    exact ⟨Nat.succ_pos i, ⟨l, hl, hd, he⟩, hc⟩

theorem getElem?_numbered (d : Document) (i : Nat) : d.numbered[i]? = d[i]?.map (⟨i, ·⟩) := by
  simp [numbered, Function.comp_def]

theorem drop_numbered_eq_cons (h : d.numbered.drop i = n :: ls) :
    n.index = i ∧ d[i]? = some n.line ∧ d.numbered.drop (i + 1) = ls := by
  have hn : d.numbered[i]? = some n := by rw [← List.head?_drop, h, List.head?_cons]
  rw [getElem?_numbered, Option.map_eq_some_iff] at hn
  obtain ⟨l, hl, rfl⟩ := hn
  exact ⟨rfl, hl, by rw [← List.tail_drop, h, List.tail_cons]⟩

end Document

open Document

-- The induction is on the pass; its first line has not been taken away by the line before it.
theorem Pass.eq_filter (hf : Line.isIdentifier field.toList) (p : Pass field ls kept xs)
    (hs : d.numbered.drop i = ls) (hi : ¬d.Continues field i) :
    kept = ls.filter (fun n =>
      ¬(n.line.IsDeclaration field.toList ∨ d.Continues field n.index)) ∧
    xs.map Deletion.removal = (ls.filter fun n => n.line.IsDeclaration field.toList).map fun n =>
      ⟨field, n.index + 1, if d.Continues field (n.index + 1) then 2 else 1⟩ := by
  induction p generalizing i
  case done => exact ⟨rfl, rfl⟩
  case keep ls kept xs l hd p ih =>
    obtain ⟨rfl, hl, hs⟩ := drop_numbered_eq_cons hs
    have hd : ¬l.line.IsDeclaration field.toList := by simpa [← Line.declares_iff] using hd
    have ⟨hk, hx⟩ := ih hs fun hc => hd (continues_succ_iff hl |>.mp hc).1
    simp [hd, hi, hk, hx]
  case single ls kept xs l hd he p ih =>
    obtain ⟨rfl, hl, hs⟩ := drop_numbered_eq_cons hs
    have hd := Line.declares_iff.mp hd
    have hc : ¬d.Continues field (l.index + 1) := by
      rw [continues_succ_iff hl]
      rintro ⟨_, ho, next, hn, hc⟩
      have hh : ls.head? = some ⟨l.index + 1, next⟩ := by
        rw [← hs, List.head?_drop, getElem?_numbered, hn, Option.map_some]
      simpa [ho, hc] using he _ hh
    have ⟨hk, hx⟩ := ih hs hc
    simp [hd, hk, hx, hc, Deletion.removal, Deletion.lines]
  case double ls kept xs l next hd he hn p ih =>
    obtain ⟨rfl, hl, hs⟩ := drop_numbered_eq_cons hs
    obtain ⟨hni, hnl, hs⟩ := drop_numbered_eq_cons hs
    have hd := Line.declares_iff.mp hd
    have hc : d.Continues field (l.index + 1) :=
      continues_succ_iff hl |>.mpr ⟨hd, he, next.line, hnl, hn⟩
    have hnd : ¬next.line.IsDeclaration field.toList := fun hnd =>
      (hnd.isContinuation_iff (Line.isBareName_of_isIdentifier hf) |>.mp hn).2 <| .inl hf
    have ⟨hk, hx⟩ := ih hs fun hc => hnd (continues_succ_iff hnl |>.mp hc).1
    simp [hd, hnd, hni, hk, hx, hc, Deletion.removal, Deletion.lines]

namespace Document

-- Of the lines of a text, a pass for one field deletes those that declare it and those that are the
-- rest of such a line right before them, and it reports the former with the number of lines.
theorem strip_field_is_local (hf : Line.isIdentifier field.toList) (text : List Char) :
    let d := ofText text
    let s := d.strip [field]
    d.checkedStrip [field] = .ok s ∧
    s.kept = d.numbered.filter (fun n =>
      ¬(n.line.IsDeclaration field.toList ∨ d.Continues field n.index)) ∧
    s.removals = (d.numbered.filter fun n => n.line.IsDeclaration field.toList).map fun n =>
      ⟨field, n.index + 1, if d.Continues field (n.index + 1) then 2 else 1⟩ := by
  intro d s
  refine ⟨d.checkedStrip_eq_ok [field], ?_⟩
  have ⟨xs, p, hr⟩ := stripField_pass field d.numbered
  have hs : s = stripField field d.numbered := by
    simp [s, strip, stripFields]
  rw [hs, hr]
  exact p.eq_filter hf List.drop_zero not_continues_zero

-- An open declaration may stand right behind another one, and what continues it at the very end.
theorem strip_field_is_local_behind_open_declarations :
    let text := "a: 1\na: f(\n  2),\n  3),\n\ta : 4\n\x7d,\na:\n5,".toList
    let d := ofText text
    let s := d.strip ["a"]
    Line.isIdentifier "a".toList ∧ d.checkedStrip ["a"] = .ok s ∧
      s.kept.map (·.index) = [3, 5] ∧
      s.removals = [⟨"a", 1, 1⟩, ⟨"a", 2, 2⟩, ⟨"a", 5, 1⟩, ⟨"a", 7, 2⟩] := by
  intro text d s
  have hf : Line.isIdentifier "a".toList := by decide
  have ⟨hc, hk, hr⟩ := strip_field_is_local hf text
  have hi : s.kept.map (·.index) = [3, 5] := by
    rw [hk]
    decide +kernel
  exact ⟨hf, hc, hi, hr.trans <| by decide +kernel⟩

end Document

end TabPruning
