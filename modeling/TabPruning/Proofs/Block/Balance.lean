import TabPruning.Proofs.Block.End

namespace TabPruning

theorem Line.braceDelta_append (l l' : Line) :
    braceDelta (l ++ l') = l.braceDelta + l'.braceDelta := by
  simp [braceDelta]
  omega

namespace Document

-- The balance of all braces of the document.
def balance (d : Document) : Int :=
  (d.map Line.braceDelta).sum

variable {d : Document} {first mid last : Nat}

@[simp]
theorem balance_nil : balance [] = 0 :=
  rfl

@[simp]
theorem balance_cons (l : Line) (d : Document) : balance (l :: d) = l.braceDelta + d.balance := by
  simp [balance]

theorem balance_append (d d' : Document) : balance (d ++ d') = d.balance + d'.balance := by
  simp [balance]

theorem balance_flatten (d : Document) : Line.braceDelta d.flatten = d.balance := by
  induction d
  case nil  => rfl
  case cons ih => simp [Line.braceDelta_append, ih]

theorem balance_take_add_drop (d : Document) (i : Nat) :
    balance (d.take i) + balance (d.drop i) = d.balance := by
  rw [← balance_append, List.take_append_drop]

theorem depth_add (hm : first ≤ mid + 1) (hl : mid ≤ last) :
    d.depth first mid + d.depth (mid + 1) last = d.depth first last := by
  have ht : last + 1 - first = (mid + 1 - first) + (last + 1 - (mid + 1)) := by omega
  rw [depth, depth, depth, ht, List.take_add, List.map_append, List.sum_append, List.drop_drop,
    Nat.add_sub_cancel' hm]

theorem depth_add_drop (hm : first ≤ mid + 1) :
    d.depth first mid + balance (d.drop (mid + 1)) = balance (d.drop first) := by
  rw [← balance_take_add_drop (d.drop first) (mid + 1 - first), List.drop_drop,
    Nat.add_sub_cancel' hm]
  rfl

theorem take_add_depth (h : first ≤ last + 1) :
    balance (d.take first) + d.depth first last = balance (d.take (last + 1)) := by
  rw [← Nat.add_sub_cancel' h, List.take_add, balance_append]
  rfl

theorem depth_cons_succ (l : Line) (d : Document) (k : Nat) :
    depth (l :: d) 0 (k + 1) = l.braceDelta + d.depth 0 k := by
  simp [depth]

end Document

end TabPruning
