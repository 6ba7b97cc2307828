import Mathlib.Algebra.Order.Ring.Int
import Mathlib.Order.Bounds.Basic
import TabPruning.Block

namespace TabPruning

namespace Document

-- The balance of the braces on the lines from `first` to `last`, both included.
def depth (d : Document) (first last : Nat) : Int :=
  (((d.drop first).take (last + 1 - first)).map Line.braceDelta).sum

structure BalancedAt (d : Document) (start stop : Nat) : Prop where
  later    : start < stop
  inside   : stop < d.length
  balanced : d.depth start stop = 0

inductive EndsAt (d : Document) (start : Nat) : BlockEnd → Prop
  | closed   : (IsLeast { stop | d.BalancedAt start stop } i) → EndsAt d start ⟨i, true⟩
  | unclosed : (∀ stop, ¬d.BalancedAt start stop) → (i + 1 = d.length) → EndsAt d start ⟨i, false⟩

theorem index_lt {d : Document} {i : Nat} {l : Line} (hl : d[i]? = some l) : i < d.length :=
  (List.getElem?_eq_some_iff.mp hl).1

theorem drop_eq_cons {d : Document} {i : Nat} {l : Line} (hl : d[i]? = some l) :
    d.drop i = l :: d.drop (i + 1) := by
  have ⟨hi, hl⟩ := List.getElem?_eq_some_iff.mp hl
  rw [List.drop_eq_getElem_cons hi, hl]

theorem depth_self {d : Document} (h : d[i]? = some l) : d.depth i i = l.braceDelta := by
  have ⟨hi, hl⟩ := List.getElem?_eq_some_iff.mp h
  simp [depth, List.drop_eq_getElem_cons hi, hl]

theorem depth_succ {d : Document} (hi : start ≤ i) (h : d[i + 1]? = some l) :
    d.depth start (i + 1) = d.depth start i + l.braceDelta := by
  have hd : (d.drop start)[i + 1 - start]? = some l := by
    rw [List.getElem?_drop, Nat.add_sub_cancel' (by omega), h]
  have ht : i + 1 + 1 - start = (i + 1 - start) + 1 := by omega
  simp [depth, ht, List.take_add_one, hd]

namespace EndsAt

variable {d : Document} {start : Nat} {s s₁ s₂ : BlockEnd}

theorem deterministic : (EndsAt d start s₁) → (EndsAt d start s₂) → s₁ = s₂
  | closed h₁,      closed h₂      => by rw [h₁.unique h₂]
  | closed h,       unclosed n _   => absurd h.1 (n _)
  | unclosed n _,   closed h       => absurd h.1 (n _)
  | unclosed _ h₁,  unclosed _ h₂  => by simp; omega

theorem start_le (e : EndsAt d start s) (h : start < d.length) : start ≤ s.index := by
  cases e
  case closed hl   => exact hl.1.later.le
  case unclosed hl => simp; omega

theorem index_lt (e : EndsAt d start s) : s.index < d.length := by
  cases e
  case closed hl   => exact hl.1.inside
  case unclosed hl => simp; omega

end EndsAt

-- The scan has passed the lines up to `index`, none of which balances the braces.
theorem endsAt_scan {d : Document} {start index : Nat} (hs : start ≤ index) (hi : index < d.length)
    (hn : ∀ stop ≤ index, ¬d.BalancedAt start stop) :
    d.EndsAt start (.scan (d.depth start index) index (d.drop (index + 1))) := by
  induction hd : d.drop (index + 1) generalizing index
  case nil =>
    have hl := List.drop_eq_nil_iff.mp hd
    refine .unclosed (fun stop hb => ?_) (by omega)
    exact hn stop (by have := hb.inside; omega) hb
  case cons l ls ih =>
    have hl : d[index + 1]? = some l := by
      rw [← List.head?_drop, hd, List.head?_cons]
    have ht : d.drop (index + 1 + 1) = ls := by
      rw [← List.tail_drop, hd, List.tail_cons]
    have hlt : index + 1 < d.length := (List.getElem?_eq_some_iff.mp hl).1
    have hb : d.BalancedAt start (index + 1) ↔ d.depth start (index + 1) = 0 :=
      ⟨(·.balanced), fun h => ⟨by omega, hlt, h⟩⟩
    rw [BlockEnd.scan, ← depth_succ hs hl]
    split
    case isTrue h =>
      refine .closed ⟨hb.mpr h, fun stop hstop => ?_⟩
      by_contra hc
      exact hn stop (by omega) hstop
    case isFalse h =>
      refine ih (by omega) hlt (fun stop hle => ?_) ht
      rcases Nat.le_succ_iff.mp hle with hle | rfl
      · exact hn stop hle
      · exact mt hb.mp h

theorem exists_blockEnd {d : Document} (h : start < d.length) :
    ∃ s, d.blockEnd? start = some s := by
  rw [blockEnd?, List.drop_eq_getElem_cons h]
  exact ⟨_, rfl⟩

theorem endsAt_of_blockEnd? {d : Document} (h : d.blockEnd? start = some s) :
    start < d.length ∧ d.EndsAt start s := by
  have hlt : start < d.length := by
    by_contra hc
    simp [blockEnd?, List.drop_eq_nil_of_le (Nat.le_of_not_lt hc)] at h
  refine ⟨hlt, ?_⟩
  rw [blockEnd?, List.drop_eq_getElem_cons hlt, Option.some.injEq,
    ← depth_self (List.getElem?_eq_getElem hlt)] at h
  rw [← h]
  refine endsAt_scan le_rfl hlt fun stop hle hb => ?_
  have := hb.later
  omega

theorem blockEnd?_eq_some_iff {d : Document} :
    d.blockEnd? start = some s ↔ start < d.length ∧ d.EndsAt start s where
  mp h := endsAt_of_blockEnd? h
  mpr  := by
    intro ⟨hlt, he⟩
    have ⟨s', hs'⟩ := exists_blockEnd hlt
    rw [hs', he.deterministic (endsAt_of_blockEnd? hs').2]

theorem start_le_of_blockEnd? {d : Document} (h : d.blockEnd? start = some s) :
    start ≤ s.index :=
  have ⟨hlt, he⟩ := blockEnd?_eq_some_iff.mp h
  he.start_le hlt

end Document

end TabPruning
