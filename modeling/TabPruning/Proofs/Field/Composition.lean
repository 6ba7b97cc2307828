import Mathlib.Data.List.Forall2
import TabPruning.Proofs.Field.Declaration
import TabPruning.Proofs.Field.Renumbering

namespace TabPruning

-- What `r` reports of one of the lines that were left, `r'` reports of the same line under the
-- number it had before.
structure FieldRemoval.TracedTo (kept : List NumberedLine) (r r' : FieldRemoval) : Prop where
  field        : r'.field = r.field
  line         : ∃ i n, kept[i]? = some n ∧ r.line = i + 1 ∧ r'.line = n.index + 1
  linesRemoved : r'.linesRemoved = r.linesRemoved

variable {fields fields' : List String} {ls : List NumberedLine} {d : Document} {l : Line}

theorem Line.declares_of_colon_not_mem (h : ':' ∉ l) (name : List Char) :
    l.declares name = false := by
  refine Bool.eq_false_iff.mpr fun hd => h ?_
  obtain ⟨before, after, rest, rfl, _⟩ := declares_iff.mp hd
  exact List.mem_append_right _ List.mem_cons_self

theorem stripFields_append (fields fields' : List String) (ls : List NumberedLine) :
    let first := stripFields fields ls
    let second := stripFields fields' first.kept
    stripFields (fields ++ fields') ls = ⟨second.kept, first.removals ++ second.removals⟩ := by
  induction fields generalizing ls
  case nil => rfl
  case cons field fields ih => simp [stripFields, ih, List.append_assoc]

theorem FieldRemoval.tracedTo_relabel {r : FieldRemoval} (h : 0 < r.line)
    (hl : r.line ≤ ls.length) :
    r.TracedTo ls (r.relabel fun i => (ls.map (·.index))[i]?.getD i) := by
  have hs : ls[r.line - 1]? = some ls[r.line - 1] := List.getElem?_eq_getElem (by omega)
  exact ⟨rfl, ⟨r.line - 1, _, hs, by omega, by simp [relabel, hs]⟩, rfl⟩

namespace Document

-- The document that has no line left is read as one empty line, which declares nothing.
theorem strip_empty (fields : List String) : (ofText []).strip fields = ⟨[⟨0, []⟩], []⟩ := by
  have hs : (ofText []).numbered = [⟨0, []⟩] := by decide
  rw [strip, hs]
  refine stripFields_eq_self fun f _ => ?_
  simpa using Line.declares_of_colon_not_mem List.not_mem_nil f.toList

-- Joining and splitting lines changes nothing about them but their numbers.
theorem strip_joined_traced (fields : List String) (h : ∀ n ∈ ls, '\n' ∉ n.line) :
    let s := (ofText (toText (ls.map (·.line)))).strip fields
    s.toText = (stripFields fields ls).toText ∧
      List.Forall₂ (FieldRemoval.TracedTo ls) s.removals (stripFields fields ls).removals := by
  intro s
  obtain rfl | hn := eq_or_ne ls []
  case inl =>
    have hs : s = ⟨[⟨0, []⟩], []⟩ := strip_empty fields
    have hr : stripFields fields [] = ⟨[], []⟩ := stripFields_eq_self fun _ _ => nofun
    rw [hs, hr]
    exact ⟨rfl, .nil⟩
  case inr =>
    have hs : s.relabel _ = stripFields fields ls := strip_joined fields hn h
    rw [← hs, Stripping.toText_relabel]
    refine ⟨rfl, ?_⟩
    rw [Stripping.relabel, List.forall₂_map_right_iff, List.forall₂_same]
    intro r hr
    have hl := removal_line_le r hr
    rw [ofText_toText (by simpa) (List.forall_mem_map.mpr h), List.length_map] at hl
    exact FieldRemoval.tracedTo_relabel (removal_line_pos r hr) hl

theorem lineFeed_not_mem_strip (fields : List String) (text : List Char) :
    ∀ n ∈ ((ofText text).strip fields).kept, '\n' ∉ n.line := by
  intro n hn
  have hm := (stripFields_sublist fields _).subset hn
  exact not_mem_of_mem_ofText _ <| List.mem_of_getElem? <| mem_numbered_iff.mp hm

-- Removing fields after others comes to the same as removing all of them at once.
theorem strip_append (fields fields' : List String) (text : List Char) :
    let d := ofText text
    let first := d.strip fields
    let second := (ofText first.toText).strip fields'
    let whole := d.strip (fields ++ fields')
    whole.toText = second.toText ∧ first.kept.Sublist d.numbered ∧
      ∃ rs, whole.removals = first.removals ++ rs ∧
        List.Forall₂ (FieldRemoval.TracedTo first.kept) second.removals rs := by
  intro d first second whole
  have hw : whole = ⟨_, first.removals ++ _⟩ := stripFields_append fields fields' d.numbered
  have ⟨ht, hr⟩ := strip_joined_traced fields' <| lineFeed_not_mem_strip fields text
  refine ⟨?_, stripFields_sublist fields d.numbered, _, congrArg Stripping.removals hw, hr⟩
  exact (congrArg Stripping.toText hw).trans ht.symm

end Document

end TabPruning
