import TabPruning.Proofs.Block.Checked
import TabPruning.Proofs.Excision.Rewriting

namespace TabPruning

open Checked

namespace Block

def checkedLength (b : Block) : Checked Nat := do
  return (← sub b.last b.first) + 1

theorem checkedLength_eq_ok {b : Block} (h : b.first ≤ b.last) :
    b.checkedLength = .ok b.length := by
  rw [checkedLength, sub_eq_ok h]
  rfl

end Block

namespace Rewriting

variable {detector : Detector} {d : Document} {r r' : Rewriting} {l : Line} {rounds : Nat}

def checkedStep (detector : Detector) (d : Document) (r : Rewriting) (l : Line) :
    Checked Rewriting :=
  match detector.marker? l with
  | none   => .ok { r with cursor := r.cursor + 1, kept := r.kept ++ [⟨r.cursor, l⟩] }
  | some m => do
    let s ← d.checkedEnd r.cursor
    return { r with cursor := s.index + 1, log := r.log.push ⟨r.cursor, s.index, m, s.closed⟩ }

-- At most as many rounds as given are left.
def checkedRun (detector : Detector) (d : Document) (r : Rewriting) : Nat → Checked Excision
  | 0          => if r.cursor < d.length then .error .endless else .ok ⟨r.kept, r.log⟩
  | rounds + 1 =>
    match d[r.cursor]? with
    | none   => .ok ⟨r.kept, r.log⟩
    | some l => do (← r.checkedStep detector d l).checkedRun detector d rounds

-- A round on a line of the document is caught in no trap, and moves the cursor on.
theorem exists_checkedStep (detector : Detector) (hd : d.flatten.length ≤ maxWord)
    (hl : d[r.cursor]? = some l) :
    ∃ r', r.checkedStep detector d l = .ok r' ∧ r.step detector d l = .ok r' ∧
      r.cursor < r'.cursor := by
  cases hm : detector.marker? l
  case none =>
    have hs := step_keep (r := r) (d := d) hm
    refine ⟨_, ?_, hs, step_cursor_lt hs⟩
    rw [checkedStep, hm]
  case some m =>
    have ⟨s, he⟩ := Document.exists_blockEnd <| Document.index_lt hl
    have hs := step_block hm he
    refine ⟨_, ?_, hs, step_cursor_lt hs⟩
    simp only [checkedStep, hm, Document.checkedEnd_eq_ok hd he]
    rfl

theorem checkedRun_eq_ok (hd : d.flatten.length ≤ maxWord) (hr : d.length ≤ r.cursor + rounds)
    (he : r.run detector d = .ok e) : r.checkedRun detector d rounds = .ok e := by
  induction rounds generalizing r
  case zero =>
    rw [run_done (List.getElem?_eq_none hr)] at he
    cases he
    exact if_neg (by omega)
  case succ rounds ih =>
    cases hl : d[r.cursor]?
    case none =>
      rw [run_done hl] at he
      cases he
      simp only [checkedRun, hl]
    case some l =>
      have ⟨r', hc, hs, hlt⟩ := exists_checkedStep detector hd hl
      rw [run_step hl hs] at he
      simp only [checkedRun, hl, hc, ok_bind]
      exact ih (by omega) he

end Rewriting

-- One round for each line.
def Document.checkedRewrite (d : Document) (detector : Detector) : Checked Excision :=
  Rewriting.checkedRun detector d {} d.length

theorem Document.checkedRewrite_eq_ok {d : Document} (hd : d.flatten.length ≤ maxWord)
    (detector : Detector) : d.checkedRewrite detector = .ok (d.excise detector) :=
  Rewriting.checkedRun_eq_ok hd (Nat.le_add_left ..) (d.rewrite_eq_ok detector)

end TabPruning
