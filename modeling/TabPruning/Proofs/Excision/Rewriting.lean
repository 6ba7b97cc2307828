import TabPruning.Failure
import TabPruning.Proofs.Excision.Cut

namespace TabPruning

-- A rewriting under way: what the lines before the cursor were cut into.
structure Rewriting where
  cursor : Nat                := 0
  kept   : List NumberedLine  := []
  log    : BlockLog           := {}

namespace Rewriting

variable {detector : Detector} {d : Document} {r r' : Rewriting}

-- `l` is the line under the cursor.
def step (detector : Detector) (d : Document) (r : Rewriting) (l : Line) :
    Except PruneError Rewriting :=
  match detector.marker? l with
  | none   => .ok { r with cursor := r.cursor + 1, kept := r.kept ++ [⟨r.cursor, l⟩] }
  | some m =>
    match d.blockEnd? r.cursor with
    | none   => .error (.startOutOfRange r.cursor d.length)
    | some s => .ok
        { r with cursor := s.index + 1, log := r.log.push ⟨r.cursor, s.index, m, s.closed⟩ }

theorem step_keep (hm : detector.marker? l = none) :
    r.step detector d l = .ok ⟨r.cursor + 1, r.kept ++ [⟨r.cursor, l⟩], r.log⟩ := by
  rw [step, hm]

theorem step_block (hm : detector.marker? l = some m) (hs : d.blockEnd? r.cursor = some s) :
    r.step detector d l =
      .ok ⟨s.index + 1, r.kept, r.log.push ⟨r.cursor, s.index, m, s.closed⟩⟩ := by
  simp only [step, hm, hs]

theorem step_cursor_lt (h : r.step detector d l = .ok r') : r.cursor < r'.cursor := by
  unfold step at h
  split at h
  case h_1 =>
    cases h
    exact Nat.lt_succ_self _
  case h_2 =>
    split at h
    case h_1      => cases h
    case h_2 s hs =>
      cases h
      exact Nat.lt_succ_of_le <| Document.start_le_of_blockEnd? hs

def run (detector : Detector) (d : Document) (r : Rewriting) : Except PruneError Excision :=
  match _hl : d[r.cursor]? with
  | none   => .ok ⟨r.kept, r.log⟩
  | some l =>
    match _hr : r.step detector d l with
    | .error e => .error e
    | .ok r'   => run detector d r'
  termination_by d.length - r.cursor
  decreasing_by
    have := Document.index_lt _hl
    have := step_cursor_lt _hr
    omega

theorem run_done (hl : d[r.cursor]? = none) : r.run detector d = .ok ⟨r.kept, r.log⟩ := by
  rw [run]
  split <;> simp_all

theorem run_step (hl : d[r.cursor]? = some l) (hr : r.step detector d l = .ok r') :
    r.run detector d = r'.run detector d := by
  rw [run]
  split
  case h_1 hn => simp [hl] at hn
  case h_2 hl' =>
    cases hl.symm.trans hl'
    split <;> simp_all

-- What is already cut, followed by what the lines from the cursor on are cut into.
def append (r : Rewriting) (e : Excision) : Excision :=
  ⟨r.kept ++ e.kept, ⟨r.log.blocks ++ e.log.blocks⟩⟩

theorem run_eq_append (c : Cut detector d i e) (h : r.cursor = i) :
    r.run detector d = .ok (r.append e) := by
  induction c generalizing r
  case done hi =>
    simp [run_done (List.getElem?_eq_none (h ▸ hi)), append]
  case keep hl hm _ ih =>
    subst h
    rw [run_step hl (step_keep hm), ih rfl]
    simp [append, Excision.keep]
  case block hl hm hs _ ih =>
    subst h
    rw [run_step hl (step_block hm hs), ih rfl]
    simp [append, Excision.remove, BlockLog.push]

end Rewriting

-- The whole rewriting, from the first line on.
def Document.rewrite (d : Document) (detector : Detector) : Except PruneError Excision :=
  Rewriting.run detector d {}

theorem Document.rewrite_eq_ok (d : Document) (detector : Detector) :
    d.rewrite detector = .ok (d.excise detector) :=
  Rewriting.run_eq_append (Document.exciseFrom_cut detector d 0) rfl

end TabPruning
