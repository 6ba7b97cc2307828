import Mathlib.Data.String.Basic
import TabPruning.Proofs.Config.Validation
import TabPruning.Proofs.Excision.Checked
import TabPruning.Proofs.Field.Scan
import TabPruning.Proofs.Prune.Declarations

namespace TabPruning

open Checked

theorem length_le_utf8Len (cs : List Char) : cs.length ≤ String.utf8Len cs := by
  induction cs
  case nil => rfl
  case cons c cs ih =>
    have := c.utf8Size_pos
    rw [List.length_cons, String.utf8Len_cons]
    omega

namespace Document

theorem length_flatten_le (d : Document) : d.flatten.length ≤ d.toText.length := by
  induction d
  case nil => rfl
  case cons l d ih =>
    cases d
    case nil => simp [toText]
    case cons l' d =>
      simp only [toText, List.flatten_cons, List.length_append,
        List.intercalate_cons_cons] at ih ⊢
      omega

-- No text has more characters on its lines than it has bytes.
theorem length_flatten_ofText_le (text : String) :
    (ofText text.toList).flatten.length ≤ text.utf8ByteSize :=
  calc (ofText text.toList).flatten.length
    _ ≤ (ofText text.toList).toText.length := length_flatten_le _
    _ = text.toList.length                 := by rw [toText_ofText]
    _ ≤ String.utf8Len text.toList         := length_le_utf8Len _
    _ = text.utf8ByteSize                  := by
      rw [← String.utf8ByteSize_ofList, String.ofList_toList]

end Document

namespace FieldRemoval

def checkedRenumber (sources : List Nat) (r : FieldRemoval) : Checked FieldRemoval := do
  match sources[← sub r.line 1]? with
  | none       => .error (.unlisted r.line)
  | some index => .ok { r with line := index + 1 }

theorem checkedRenumber_eq_ok {sources : List Nat} {r : FieldRemoval} (h : 0 < r.line)
    (hl : r.line ≤ sources.length) :
    r.checkedRenumber sources = .ok (r.renumber sources.toArray) := by
  have hs : sources[r.line - 1]? = some sources[r.line - 1] := List.getElem?_eq_getElem (by omega)
  simp only [checkedRenumber, sub_eq_ok h, ok_bind, renumber, List.getElem?_toArray, hs]

theorem mapM_checkedRenumber {sources : List Nat} {rs : List FieldRemoval}
    (h : ∀ r ∈ rs, 0 < r.line ∧ r.line ≤ sources.length) :
    rs.mapM (checkedRenumber sources) = .ok (rs.map (renumber sources.toArray)) := by
  induction rs
  case nil => rfl
  case cons r rs ih =>
    have ⟨hr, hrs⟩ := List.forall_mem_cons.mp h
    rw [List.mapM_cons, checkedRenumber_eq_ok hr.1 hr.2, ok_bind, ih hrs]
    rfl

end FieldRemoval

namespace Config

variable {c : Config} {text : String}

theorem pruner_eq_ok (h : c.validate = .ok ()) : c.pruner = .ok ⟨c, validate_eq_ok_iff.mp h⟩ := by
  unfold pruner
  split
  case h_1 hd => cases (validate_eq_ok_iff.mp h).symm.trans hd
  case h_2    => rfl

-- Every removal has its line among those that are left of the input, and there is none if no line
-- is left.
theorem removals_listed (h : c.validate = .ok ()) (text : String) :
    ∀ r ∈ (c.strip (c.excise text)).removals,
      0 < r.line ∧ r.line ≤ (c.excise text).sources.length := by
  intro r hr
  refine ⟨removal_line_pos r hr, ?_⟩
  by_cases hk : (c.excise text).kept = []
  case pos =>
    rw [strip_of_kept_eq_nil (fields_ne_nil h) hk] at hr
    cases hr
  case neg =>
    have hl := Document.removal_line_le r hr
    have hne : (c.excise text).lines ≠ [] := mt List.map_eq_nil_iff.mp hk
    rw [Document.ofText_toText hne fun l hl => Document.not_mem_of_mem_ofText l <|
      mem_document_of_mem_lines l hl] at hl
    simpa [Excision.lines, Excision.sources] using hl

def checkedPrune (c : Config) (text : String) : Checked Outcome := do
  let e ← (Document.ofText text.toList).checkedRewrite c.detector
  let s ← (Document.ofText (Document.toText e.lines)).checkedStrip c.fields
  let removals ← s.removals.mapM (·.checkedRenumber e.sources)
  return ⟨String.ofList s.toText, e.log, removals⟩

theorem checkedPrune_eq_ok (h : c.validate = .ok ()) (ht : text.utf8ByteSize ≤ maxWord) :
    c.checkedPrune text = .ok (c.prune text) := by
  have hd := (Document.length_flatten_ofText_le text).trans ht
  have hr := FieldRemoval.mapM_checkedRenumber (removals_listed h text)
  rw [checkedPrune, Document.checkedRewrite_eq_ok hd, ok_bind, Document.checkedStrip_eq_ok, ok_bind]
  change ((c.strip (c.excise text)).removals.mapM (·.checkedRenumber (c.excise text).sources) >>= _)
    = _
  rw [hr]
  rfl

-- Pruning the text takes its course: every round of the loop moves on, every number is one that a
-- machine can hold, and the outcome is reached.
structure Safe (c : Config) (text : String) : Prop where
  reached      : c.checkedPrune text = .ok (c.prune text)
  advances     : ∀ r l, (Document.ofText text.toList)[r.cursor]? = some l →
    ∃ r', Rewriting.checkedStep c.detector (.ofText text.toList) r l = .ok r' ∧
      r.cursor < r'.cursor
  block_length : ∀ b ∈ (c.prune text).log.blocks, b.checkedLength = .ok b.length
  depth        : ∀ first last, ((Document.ofText text.toList).depth first last).natAbs ≤
    (((Document.ofText text.toList).drop first).take (last + 1 - first)).flatten.length

-- Validated settings have a pruner, and it fails on no text that fits in memory.
theorem prune_never_fails (h : c.validate = .ok ()) :
    (∃ p, c.pruner = .ok p ∧ p.config = c) ∧
      ∀ text : String, text.utf8ByteSize ≤ maxWord → c.Safe text := by
  refine ⟨⟨_, pruner_eq_ok h, rfl⟩, fun text ht => ?_⟩
  have hd := (Document.length_flatten_ofText_le text).trans ht
  exact {
    reached      := checkedPrune_eq_ok h ht
    advances r l hl :=
      have ⟨r', hs, _, hlt⟩ := Rewriting.exists_checkedStep c.detector hd hl
      ⟨r', hs, hlt⟩
    block_length b hb :=
      Block.checkedLength_eq_ok ((c.excise_segmentation text).blocks_inside b hb).2.1
    depth        := Document.natAbs_depth_le _ }

-- So it is where every line goes with an unclosed block, and no line is left for a field.
theorem prune_never_fails_on_unclosed_block :
    let c : Config := { markers := [.team], fields := ["a"] }
    let text := "if (activeTab === 'team') \x7b\n\x7b a: 1,\n\x7d"
    c.validate = .ok () ∧ text.utf8ByteSize ≤ maxWord ∧
      c.checkedPrune text = .ok ⟨"", ⟨[⟨0, 2, .team, false⟩]⟩, []⟩ ∧
      (Document.ofText text.toList).depth 0 1 = 2 := by
  intro c text
  have hc : c.validate = .ok () := validate_eq_ok_iff.mpr <| by decide
  have ht : text.utf8ByteSize ≤ maxWord := by decide +kernel
  have hp : c.prune text = ⟨"", ⟨[⟨0, 2, .team, false⟩]⟩, []⟩ := by decide +kernel
  exact ⟨hc, ht, hp ▸ ((prune_never_fails hc).2 text ht).reached, by decide +kernel⟩

end Config

end TabPruning
