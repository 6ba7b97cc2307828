import TabPruning.Prune
import TabPruning.Proofs.Block.End
import TabPruning.Proofs.Field.Deletion

namespace TabPruning

def NumberedLine.relabel (f : Nat → Nat) (n : NumberedLine) : NumberedLine :=
  { n with index := f n.index }

-- Removals number their lines from one.
def FieldRemoval.relabel (f : Nat → Nat) (r : FieldRemoval) : FieldRemoval :=
  { r with line := f (r.line - 1) + 1 }

def Stripping.relabel (f : Nat → Nat) (s : Stripping) : Stripping :=
  ⟨s.kept.map (·.relabel f), s.removals.map (·.relabel f)⟩

variable {fields : List String} {ls : List NumberedLine} {d : Document} {n : NumberedLine}

theorem FieldRemoval.renumber_eq_relabel {sources : List Nat} {r : FieldRemoval} (h : 0 < r.line) :
    r.renumber sources.toArray = r.relabel fun i => sources[i]?.getD i := by
  rw [renumber, relabel, List.getElem?_toArray]
  split
  case h_1 hs => simp [hs]
  case h_2 hs => rw [hs, Option.getD_none, Nat.sub_add_cancel h]

theorem removal_line_pos : ∀ r ∈ (stripFields fields ls).removals, 0 < r.line := by
  have ⟨xs, _, hr⟩ := stripFields_passes fields ls
  rw [hr]
  exact List.forall_mem_map.mpr fun x _ => Nat.succ_pos _

theorem Stripping.toText_relabel (f : Nat → Nat) (s : Stripping) :
    (s.relabel f).toText = s.toText := by
  rw [toText, toText, relabel, List.map_map]
  rfl

theorem stripField_relabel (f : Nat → Nat) (field : String) (ls : List NumberedLine) :
    stripField field (ls.map (·.relabel f)) = (stripField field ls).relabel f := by
  fun_induction stripField field ls <;>
    simp_all [stripField, Stripping.relabel, Stripping.keep, Stripping.remove,
      NumberedLine.relabel, FieldRemoval.relabel]

theorem stripFields_relabel (f : Nat → Nat) (fields : List String) (ls : List NumberedLine) :
    stripFields fields (ls.map (·.relabel f)) = (stripFields fields ls).relabel f := by
  induction fields generalizing ls
  case nil => rfl
  case cons field fields ih =>
    simp only [stripFields, stripField_relabel]
    simp [Stripping.relabel, ih]

namespace Document

theorem mem_numbered_iff : n ∈ d.numbered ↔ d[n.index]? = some n.line := by
  rcases n with ⟨i, l⟩
  simp [numbered, List.mem_zipIdx_iff_getElem?]

theorem numbered_indices (d : Document) : d.numbered.map (·.index) = List.range d.length := by
  rw [numbered, List.map_map, List.range_eq_range', ← List.zipIdx_map_snd]
  rfl

theorem numbered_lines (d : Document) : d.numbered.map (·.line) = d := by
  simp [numbered, Function.comp_def]

theorem numbered_ordered (d : Document) : d.numbered.Pairwise (·.index < ·.index) :=
  List.pairwise_map.mp <| d.numbered_indices ▸ List.pairwise_lt_range

theorem numbered_relabel (ls : List NumberedLine) :
    (numbered (ls.map (·.line))).map (·.relabel fun i => (ls.map (·.index))[i]?.getD i) = ls := by
  refine List.ext_getElem (by simp [numbered]) fun i h₁ h₂ => ?_
  simp [numbered, NumberedLine.relabel, h₂]

theorem removal_line_le : ∀ r ∈ (d.strip fields).removals, r.line ≤ d.length := by
  have ⟨xs, p, hr⟩ := stripFields_passes fields d.numbered
  rw [strip, hr]
  exact List.forall_mem_map.mpr fun x hx => index_lt <| mem_numbered_iff.mp <|
    p.declaration_mem x hx

-- Without any line there would be an empty one after the lines are joined and split.
theorem strip_joined (fields : List String) (hn : ls ≠ []) (h : ∀ n ∈ ls, '\n' ∉ n.line) :
    ((ofText (toText (ls.map (·.line)))).strip fields).relabel
      (fun i => (ls.map (·.index))[i]?.getD i) = stripFields fields ls := by
  rw [ofText_toText (by simpa) (List.forall_mem_map.mpr h), strip, ← stripFields_relabel,
    numbered_relabel]

end Document

end TabPruning
