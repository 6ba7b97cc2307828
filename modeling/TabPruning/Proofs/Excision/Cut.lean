import TabPruning.Excision
import TabPruning.Proofs.Block.End

namespace TabPruning

namespace Excision

def keep (n : NumberedLine) (e : Excision) : Excision :=
  { e with kept := n :: e.kept }

def remove (b : Block) (e : Excision) : Excision :=
  { e with log := ⟨b :: e.log.blocks⟩ }

end Excision

variable {detector : Detector} {d : Document}

-- What the lines from the given index on are cut into.
inductive Cut (detector : Detector) (d : Document) : Nat → Excision → Prop
  | done  : (d.length ≤ i) → Cut detector d i ⟨[], {}⟩
  | keep  : (d[i]? = some l) → (detector.marker? l = none) → (Cut detector d (i + 1) e) →
    Cut detector d i (e.keep ⟨i, l⟩)
  | block : (d[i]? = some l) → (detector.marker? l = some m) → (d.blockEnd? i = some s) →
    (Cut detector d (s.index + 1) e) → Cut detector d i (e.remove ⟨i, s.index, m, s.closed⟩)

namespace Document

theorem exciseFrom_done (h : d.length ≤ i) : exciseFrom detector i (d.drop i) = ⟨[], {}⟩ := by
  rw [List.drop_eq_nil_of_le h, exciseFrom]

theorem exciseFrom_keep (hl : d[i]? = some l) (hm : detector.marker? l = none) :
    exciseFrom detector i (d.drop i) =
      (exciseFrom detector (i + 1) (d.drop (i + 1))).keep ⟨i, l⟩ := by
  rw [drop_eq_cons hl, exciseFrom, hm]
  rfl

theorem exciseFrom_block
    (hl : d[i]? = some l) (hm : detector.marker? l = some m) (hs : d.blockEnd? i = some s) :
    exciseFrom detector i (d.drop i) =
      (exciseFrom detector (s.index + 1) (d.drop (s.index + 1))).remove
        ⟨i, s.index, m, s.closed⟩ := by
  rw [blockEnd?, drop_eq_cons hl, Option.some.injEq] at hs
  have hle : i ≤ s.index := hs ▸ BlockEnd.scan_index_le ..
  have hd : (d.drop (i + 1)).drop (s.index - i) = d.drop (s.index + 1) := by
    rw [List.drop_drop, show i + 1 + (s.index - i) = s.index + 1 by omega]
  rw [drop_eq_cons hl, exciseFrom, hm, hs]
  simp only [hd]
  rfl

end Document

namespace Cut

theorem exciseFrom_eq (c : Cut detector d i e) :
    Document.exciseFrom detector i (d.drop i) = e := by
  induction c
  case done h              => exact Document.exciseFrom_done h
  case keep hl hm _ ih     => rw [Document.exciseFrom_keep hl hm, ih]
  case block hl hm hs _ ih => rw [Document.exciseFrom_block hl hm hs, ih]

end Cut

theorem Document.exciseFrom_cut (detector : Detector) (d : Document) (i : Nat) :
    Cut detector d i (exciseFrom detector i (d.drop i)) := by
  by_cases hi : i < d.length
  case neg =>
    have hi := Nat.le_of_not_lt hi
    rw [exciseFrom_done hi]
    exact .done hi
  case pos =>
    have hl := List.getElem?_eq_getElem hi
    cases hm : detector.marker? d[i]
    case none =>
      exact exciseFrom_keep hl hm ▸ .keep hl hm (exciseFrom_cut detector d (i + 1))
    case some m =>
      have ⟨s, hs⟩ := exists_blockEnd hi
      have hle := start_le_of_blockEnd? hs
      exact exciseFrom_block hl hm hs ▸ .block hl hm hs (exciseFrom_cut detector d (s.index + 1))
termination_by d.length - i

theorem Cut.iff_eq_excise : Cut detector d 0 e ↔ d.excise detector = e where
  mp c  := c.exciseFrom_eq
  mpr h := h ▸ Document.exciseFrom_cut detector d 0

end TabPruning
