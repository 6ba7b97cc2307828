import TabPruning.Block

namespace TabPruning

-- A line together with its index in the document it comes from.
structure NumberedLine where
  index : Nat
  line  : Line
  deriving DecidableEq, Repr

-- What removing the blocks leaves, and what it removed.
structure Excision where
  kept : List NumberedLine
  log  : BlockLog
  deriving DecidableEq, Repr

namespace Excision

def lines (e : Excision) : Document :=
  e.kept.map (·.line)

-- For each kept line, its index in the document.
def sources (e : Excision) : List Nat :=
  e.kept.map (·.index)

end Excision

theorem BlockEnd.scan_index_le (depth : Int) (index : Nat) (ls : Document) :
    index ≤ (scan depth index ls).index := by
  fun_induction scan depth index ls <;> grind

namespace Document

-- Cuts the lines, the first of which has the given index. A marked line inside a block starts no
-- block of its own.
def exciseFrom (detector : Detector) (index : Nat) : Document → Excision
  | []      => ⟨[], {}⟩
  | l :: ls =>
    match detector.marker? l with
    | none =>
      let tail := exciseFrom detector (index + 1) ls
      { tail with kept := ⟨index, l⟩ :: tail.kept }
    | some marker =>
      let stop := BlockEnd.scan l.braceDelta index ls
      let tail := exciseFrom detector (stop.index + 1) (ls.drop (stop.index - index))
      { tail with log := ⟨⟨index, stop.index, marker, stop.closed⟩ :: tail.log.blocks⟩ }
  termination_by ls => ls.length
  decreasing_by all_goals grind

def excise (d : Document) (detector : Detector) : Excision :=
  exciseFrom detector 0 d

end Document

end TabPruning
