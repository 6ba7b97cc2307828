import Mathlib.Data.List.Flatten
import TabPruning.Failure
import TabPruning.Proofs.Block.Balance

namespace TabPruning

-- What a pruning can be caught in.
inductive Trap
  | failure (e : PruneError)
  -- A difference of natural numbers that is less than zero.
  | underflow (a b : Nat)
  -- A number that does not fit in a word.
  | overflow (n : Int)
  -- A loop that has gone round more often than there are lines.
  | endless
  -- A continuation without a declaration before it.
  | nothingRemoved
  -- A line number that belongs to no line.
  | unlisted (number : Nat)

abbrev Checked (α : Type) : Type :=
  Except Trap α

-- The largest number that fits in a word.
def maxWord : Nat :=
  9223372036854775807

namespace Checked

def sub (a b : Nat) : Checked Nat :=
  if b ≤ a then .ok (a - b) else .error (.underflow a b)

def add (a b : Int) : Checked Int :=
  if -maxWord - 1 ≤ a + b ∧ a + b ≤ maxWord then .ok (a + b) else .error (.overflow (a + b))

@[simp]
theorem ok_bind (a : α) (f : α → Checked β) : ((.ok a : Checked α) >>= f) = f a :=
  rfl

theorem sub_eq_ok (h : b ≤ a) : sub a b = .ok (a - b) :=
  if_pos h

theorem add_eq_ok (h : (a + b).natAbs ≤ maxWord) : add a b = .ok (a + b) :=
  if_pos (by omega)

end Checked

open Checked

namespace Line

-- Counts one more character.
def countBrace (depth : Int) (c : Char) : Checked Int :=
  if c = '{' then add depth 1 else if c = '}' then add depth (-1) else .ok depth

def checkedDelta (l : Line) : Checked Int :=
  l.foldlM countBrace 0

theorem braceDelta_cons (c : Char) (l : Line) :
    braceDelta (c :: l) = braceDelta [c] + braceDelta l :=
  braceDelta_append [c] l

theorem natAbs_braceDelta_le (l : Line) : l.braceDelta.natAbs ≤ l.length := by
  have ho := l.count_le_length (a := '{')
  have hc := l.count_le_length (a := '}')
  simp only [braceDelta]
  omega

theorem countBrace_eq_ok (h : depth.natAbs < maxWord) :
    countBrace depth c = .ok (depth + braceDelta [c]) := by
  unfold countBrace
  split
  case isTrue hc =>
    subst hc
    exact add_eq_ok (by omega)
  case isFalse ho =>
    split
    case isTrue hc =>
      subst hc
      exact add_eq_ok (by omega)
    case isFalse hc =>
      simp [braceDelta, ho, hc]

theorem foldlM_countBrace {l : Line} (h : depth.natAbs + l.length ≤ maxWord) :
    l.foldlM countBrace depth = .ok (depth + l.braceDelta) := by
  induction l generalizing depth
  case nil => simp [braceDelta, pure, Except.pure]
  case cons c l ih =>
    rw [List.length_cons] at h
    have hc := natAbs_braceDelta_le [c]
    rw [List.length_singleton] at hc
    rw [List.foldlM_cons, countBrace_eq_ok (by omega), ok_bind, ih (by omega), braceDelta_cons c l,
      Int.add_assoc]

theorem checkedDelta_eq_ok {l : Line} (h : l.length ≤ maxWord) :
    l.checkedDelta = .ok l.braceDelta := by
  rw [checkedDelta, foldlM_countBrace (by simpa using h), Int.zero_add]

end Line

namespace BlockEnd

variable {l : Line} {ls : Document} {depth : Int} {length start index : Nat}

-- `depth` is the depth before the next line, which has the given index in a document of `length`
-- lines.
def checkedScan (length start : Nat) (depth : Int) (index : Nat) : Document → Checked BlockEnd
  | []      => do return ⟨← sub length 1, false⟩
  | l :: ls => do
    let depth ← add depth (← l.checkedDelta)
    if depth = 0 ∧ start < index then return ⟨index, true⟩
    checkedScan length start depth (index + 1) ls

theorem checkedScan_cons (h : depth.natAbs + (l :: ls).flatten.length ≤ maxWord) :
    checkedScan length start depth index (l :: ls) =
      if depth + l.braceDelta = 0 ∧ start < index then .ok ⟨index, true⟩
      else checkedScan length start (depth + l.braceDelta) (index + 1) ls := by
  rw [List.flatten_cons, List.length_append] at h
  have hl := l.natAbs_braceDelta_le
  rw [checkedScan, Line.checkedDelta_eq_ok (by omega), ok_bind, add_eq_ok (by omega)]
  rfl

theorem checkedScan_eq_ok (h : depth.natAbs + ls.flatten.length ≤ maxWord)
    (hs : start ≤ index) (hl : index + 1 + ls.length = length) :
    checkedScan length start depth (index + 1) ls = .ok (.scan depth index ls) := by
  induction ls generalizing depth index
  case nil =>
    rw [List.length_nil] at hl
    rw [checkedScan, sub_eq_ok (by omega), ← hl]
    rfl
  case cons l ls ih =>
    have hd := l.natAbs_braceDelta_le
    rw [checkedScan_cons h, scan]
    simp only [List.flatten_cons, List.length_append, List.length_cons] at h hl
    split
    case isTrue hz => rw [if_pos hz.1]
    case isFalse hz =>
      rw [if_neg fun hd => hz ⟨hd, by omega⟩]
      exact ih (by omega) (by omega) (by omega)

end BlockEnd

namespace Document

-- No depth is farther from zero than there are characters on the lines it counts.
theorem natAbs_depth_le (d : Document) (first last : Nat) :
    (d.depth first last).natAbs ≤ ((d.drop first).take (last + 1 - first)).flatten.length := by
  have h := Line.natAbs_braceDelta_le ((d.drop first).take (last + 1 - first)).flatten
  rwa [balance_flatten] at h

def checkedEnd (d : Document) (start : Nat) : Checked BlockEnd :=
  if d.length ≤ start then .error (.failure (.startOutOfRange start d.length))
  else BlockEnd.checkedScan d.length start 0 start (d.drop start)

theorem checkedEnd_eq_ok {d : Document} (h : d.flatten.length ≤ maxWord)
    (hs : d.blockEnd? start = some s) : d.checkedEnd start = .ok s := by
  have hlt := (endsAt_of_blockEnd? hs).1
  have hd := List.drop_eq_getElem_cons hlt
  have hf : (d[start] :: d.drop (start + 1)).flatten.length ≤ maxWord := by
    rw [← hd]
    exact ((List.drop_sublist start d).flatten.length_le).trans h
  rw [blockEnd?, hd, Option.some.injEq] at hs
  rw [checkedEnd, if_neg (by omega), hd, BlockEnd.checkedScan_cons (by simpa using hf),
    if_neg (by simp), Int.zero_add, ← hs]
  refine BlockEnd.checkedScan_eq_ok ?_ le_rfl (by simp; omega)
  rw [List.flatten_cons, List.length_append] at hf
  have := d[start].natAbs_braceDelta_le
  omega

end Document

end TabPruning
