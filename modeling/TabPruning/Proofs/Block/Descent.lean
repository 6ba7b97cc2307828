import TabPruning.Proofs.Block.End

namespace TabPruning

namespace Document

variable {d : Document} {start i : Nat} {s : BlockEnd}

-- The start line opens more braces than it closes, and no later line closes more than one brace
-- beyond those it opens.
structure DescendsFrom (d : Document) (start : Nat) : Prop where
  opens : ∃ l, d[start]? = some l ∧ 1 ≤ l.braceDelta
  falls : ∀ l ∈ d.drop (start + 1), -1 ≤ l.braceDelta

namespace DescendsFrom

theorem start_lt (h : d.DescendsFrom start) : start < d.length :=
  have ⟨_, hl, _⟩ := h.opens
  index_lt hl

theorem depth_start_pos (h : d.DescendsFrom start) : 1 ≤ d.depth start start := by
  have ⟨l, hl, hd⟩ := h.opens
  rwa [depth_self hl]

theorem depth_sub_one_le (h : d.DescendsFrom start) (hs : start ≤ i) (hi : i + 1 < d.length) :
    d.depth start i - 1 ≤ d.depth start (i + 1) := by
  have hl := List.getElem?_eq_getElem hi
  have hmem : d[i + 1] ∈ d.drop (start + 1) := by
    refine List.mem_of_getElem? (i := i - start) ?_
    rw [List.getElem?_drop, show start + 1 + (i - start) = i + 1 by omega, hl]
  have := h.falls _ hmem
  rw [depth_succ hs hl]
  omega

-- The depth stays positive for as long as it does not reach zero.
theorem depth_pos (h : d.DescendsFrom start) (hs : start ≤ i) (hi : i < d.length)
    (hn : ∀ stop ≤ i, ¬d.BalancedAt start stop) : 1 ≤ d.depth start i := by
  induction i, hs using Nat.le_induction
  case base => exact h.depth_start_pos
  case succ i hs ih =>
    have hpos := ih (Nat.lt_of_succ_lt hi) fun stop hle => hn stop (Nat.le_succ_of_le hle)
    have hge := h.depth_sub_one_le hs hi
    have hne : d.depth start (i + 1) ≠ 0 :=
      fun hz => hn (i + 1) le_rfl ⟨Nat.lt_succ_of_le hs, hi, hz⟩
    omega

theorem closed_iff (h : d.DescendsFrom start) (he : d.EndsAt start s) :
    s.closed ↔ ∃ i, start < i ∧ i < d.length ∧ d.depth start i ≤ 0 := by
  cases he
  case closed hl =>
    have hb := hl.1
    exact iff_of_true rfl ⟨_, hb.later, hb.inside, hb.balanced.le⟩
  case unclosed hn _ =>
    refine iff_of_false nofun fun ⟨i, hs, hi, hd⟩ => ?_
    have := h.depth_pos hs.le hi fun stop _ => hn stop
    omega

theorem depth_of_closed (h : d.DescendsFrom start) (he : d.EndsAt start s) (hc : s.closed) :
    start < s.index ∧ (∀ i, start ≤ i → i < s.index → 1 ≤ d.depth start i) ∧
      d.depth start s.index = 0 := by
  cases he
  case unclosed => cases hc
  case closed hl =>
    have hb := hl.1
    refine ⟨hb.later, fun i hs hi => ?_, hb.balanced⟩
    refine h.depth_pos hs (hi.trans hb.inside) fun stop hle hstop => ?_
    exact Nat.not_le_of_lt hi <| (hl.2 hstop).trans hle

end DescendsFrom

-- Where the depth falls by single steps, a block closes just when the depth stops being positive,
-- and it ends at the very line where this happens.
theorem block_ends_where_depth_vanishes (h : d.DescendsFrom start) :
    ∃ s, d.blockEnd? start = some s ∧
      (s.closed ↔ ∃ i, start < i ∧ i < d.length ∧ d.depth start i ≤ 0) ∧
      (s.closed → start < s.index ∧ (∀ i, start ≤ i → i < s.index → 1 ≤ d.depth start i) ∧
        d.depth start s.index = 0) := by
  have ⟨s, hs⟩ := exists_blockEnd h.start_lt
  have ⟨_, he⟩ := blockEnd?_eq_some_iff.mp hs
  exact ⟨s, hs, h.closed_iff he, h.depth_of_closed he⟩

-- The depth may rise by any number of steps at once, and the lines before the block may fall as
-- they like.
theorem block_ends_where_depth_vanishes_behind_steep_rise :
    let d : Document := ["\x7d\x7d", "if (activeTab === 'team') \x7b", "  \x7b\x7b", "  \x7d",
      "\x7d", "\x7d else \x7b", "\x7d", "\x7d"].map String.toList
    d.DescendsFrom 1 ∧ d.blockEnd? 1 = some ⟨6, true⟩ ∧
      (∀ i, 1 ≤ i → i < 6 → 1 ≤ d.depth 1 i) ∧ d.depth 1 6 = 0 := by
  intro d
  have h : d.DescendsFrom 1 := ⟨⟨_, rfl, by decide +kernel⟩, by decide +kernel⟩
  have hs : d.blockEnd? 1 = some ⟨6, true⟩ := by decide +kernel
  have ⟨s, hs', _, hc⟩ := block_ends_where_depth_vanishes h
  cases hs.symm.trans hs'
  exact ⟨h, hs, (hc rfl).2⟩

end Document

end TabPruning
