import Mathlib.Data.List.Pairwise
import TabPruning.Proofs.Excision.Rewriting

namespace TabPruning

variable {ms : List Marker} {d : Document} {e : Excision} {start : Nat}

namespace Detector

-- The trigger of `m` stands on the line, and that of no marker listed before `m` does.
def Claims (detector : Detector) (l : Line) (m : Marker) : Prop :=
  ∃ before after, detector.markers = before ++ m :: after ∧ m.trigger.toList <:+: l ∧
    ∀ m' ∈ before, ¬m'.trigger.toList <:+: l

theorem marker?_eq_some_iff {detector : Detector} :
    detector.marker? l = some m ↔ detector.Claims l m := by
  simp [marker?, Claims, List.find?_eq_some_iff_append]
  grind

theorem marker?_ofMarkers_eq_none_iff :
    (ofMarkers ms).marker? l = none ↔ ∀ m ∈ ms, ¬m.trigger.toList <:+: l := by
  simp [marker?, ofMarkers]

end Detector

def Block.covers (b : Block) (i : Nat) : Bool :=
  b.first ≤ i && i ≤ b.last

theorem Block.covers_iff {b : Block} : b.covers i ↔ b.first ≤ i ∧ i ≤ b.last := by
  simp [covers]

namespace Excision

-- How many blocks and kept lines an index belongs to.
def coverage (e : Excision) (i : Nat) : Nat :=
  e.log.blocks.countP (·.covers i) + e.sources.count i

theorem coverage_keep : (e.keep n).coverage i = e.coverage i + if n.index = i then 1 else 0 := by
  simp [coverage, keep, sources, List.count_cons, Nat.add_assoc]

theorem coverage_remove :
    (e.remove b).coverage i = e.coverage i + if b.covers i then 1 else 0 := by
  simp [coverage, remove, sources, List.countP_cons]
  omega

end Excision

-- The lines from `start` on, taken apart.
structure Segmentation (ms : List Marker) (d : Document) (start : Nat) (e : Excision) : Prop where
  blocks_inside  : ∀ b ∈ e.log.blocks, start ≤ b.first ∧ b.first ≤ b.last ∧ b.last < d.length
  blocks_ordered : e.log.blocks.Pairwise fun b c => b.last < c.first
  blocks_marked  : ∀ b ∈ e.log.blocks, ∃ l, d[b.first]? = some l ∧
    (Detector.ofMarkers ms).Claims l b.marker
  blocks_end     : ∀ b ∈ e.log.blocks, d.EndsAt b.first ⟨b.last, b.closed⟩
  kept_inside    : ∀ n ∈ e.kept, start ≤ n.index
  kept_ordered   : e.sources.Pairwise (· < ·)
  kept_lines     : ∀ n ∈ e.kept, d[n.index]? = some n.line
  kept_unmarked  : ∀ n ∈ e.kept, ∀ m ∈ ms, ¬m.trigger.toList <:+: n.line
  covered        : ∀ i, start ≤ i → i < d.length → e.coverage i = 1

namespace Segmentation

theorem coverage_eq_zero (s : Segmentation ms d start e) (h : i < start) : e.coverage i = 0 := by
  have hb : ∀ b ∈ e.log.blocks, ¬b.covers i := by
    intro b hb hc
    have := s.blocks_inside b hb
    have := Block.covers_iff.mp hc
    omega
  have hk : i ∉ e.sources := by
    intro hi
    have ⟨n, hn, hi⟩ := List.mem_map.mp hi
    have := s.kept_inside n hn
    omega
  simp [Excision.coverage, List.countP_eq_zero.mpr hb, List.count_eq_zero.mpr hk]

theorem done (h : d.length ≤ start) : Segmentation ms d start ⟨[], {}⟩ := by
  constructor
  case covered => omega
  all_goals simp [Excision.sources]

theorem keep (hl : d[start]? = some l) (hm : (Detector.ofMarkers ms).marker? l = none)
    (s : Segmentation ms d (start + 1) e) : Segmentation ms d start (e.keep ⟨start, l⟩) where
  blocks_inside b hb := by
    have := s.blocks_inside b hb
    omega
  blocks_ordered := s.blocks_ordered
  blocks_marked  := s.blocks_marked
  blocks_end     := s.blocks_end
  kept_inside n hn := by
    cases hn
    case head    => rfl
    case tail hn => exact Nat.le_of_succ_le <| s.kept_inside n hn
  kept_ordered :=
    List.pairwise_cons.mpr ⟨List.forall_mem_map.mpr s.kept_inside, s.kept_ordered⟩
  kept_lines n hn := by
    cases hn
    case head    => exact hl
    case tail hn => exact s.kept_lines n hn
  kept_unmarked n hn := by
    cases hn
    case head    => exact Detector.marker?_ofMarkers_eq_none_iff.mp hm
    case tail hn => exact s.kept_unmarked n hn
  covered i hs hi := by
    rw [Excision.coverage_keep]
    rcases Nat.eq_or_lt_of_le hs with rfl | hs
    · simp [s.coverage_eq_zero (Nat.lt_succ_self _)]
    · simp [s.covered i hs hi, Nat.ne_of_lt hs]

theorem block
    (hl : d[start]? = some l) (hm : (Detector.ofMarkers ms).marker? l = some m)
    (hb : d.blockEnd? start = some stop) (s : Segmentation ms d (stop.index + 1) e) :
    Segmentation ms d start (e.remove ⟨start, stop.index, m, stop.closed⟩) := by
  have ⟨_, he⟩ := Document.blockEnd?_eq_some_iff.mp hb
  have hle := Document.start_le_of_blockEnd? hb
  constructor
  case blocks_inside =>
    refine List.forall_mem_cons.mpr ⟨⟨le_rfl, hle, he.index_lt⟩, fun b hb => ?_⟩
    have := s.blocks_inside b hb
    omega
  case blocks_ordered =>
    exact List.pairwise_cons.mpr ⟨fun b hb => (s.blocks_inside b hb).1, s.blocks_ordered⟩
  case blocks_marked =>
    exact List.forall_mem_cons.mpr
      ⟨⟨l, hl, Detector.marker?_eq_some_iff.mp hm⟩, s.blocks_marked⟩
  case blocks_end =>
    exact List.forall_mem_cons.mpr ⟨he, s.blocks_end⟩
  case kept_inside =>
    intro n hn
    have := s.kept_inside n hn
    omega
  case covered =>
    intro i hs hi
    rw [Excision.coverage_remove]
    by_cases hc : i ≤ stop.index
    case pos => simp [s.coverage_eq_zero (Nat.lt_succ_of_le hc), Block.covers, hs, hc]
    case neg => simp [s.covered i (Nat.lt_of_not_le hc) hi, Block.covers, hc]
  case kept_ordered  => exact s.kept_ordered
  case kept_lines    => exact s.kept_lines
  case kept_unmarked => exact s.kept_unmarked

theorem of_cut (c : Cut (.ofMarkers ms) d i e) : Segmentation ms d i e := by
  induction c
  case done h              => exact done h
  case keep hl hm _ ih     => exact ih.keep hl hm
  case block hl hm hb _ ih => exact ih.block hl hm hb

theorem eq_nil (s : Segmentation ms d start e) (h : d.length ≤ start) : e = ⟨[], {}⟩ := by
  have hk : e.kept = [] := by
    refine List.eq_nil_iff_forall_not_mem.mpr fun n hn => ?_
    have := s.kept_inside n hn
    have := Document.index_lt <| s.kept_lines n hn
    omega
  have hb : e.log.blocks = [] := by
    refine List.eq_nil_iff_forall_not_mem.mpr fun b hb => ?_
    have := s.blocks_inside b hb
    omega
  rcases e with ⟨kept, ⟨blocks⟩⟩
  subst hk hb
  rfl

theorem first_eq_of_covers (s : Segmentation ms d start e) (hb : b ∈ e.log.blocks)
    (hc : b.covers start) : b.first = start := by
  have := s.blocks_inside b hb
  have := Block.covers_iff.mp hc
  omega

theorem mem_sources_of_unmarked (s : Segmentation ms d start e)
    (hl : d[start]? = some l) (hm : (Detector.ofMarkers ms).marker? l = none) :
    start ∈ e.sources ∧ ∀ b ∈ e.log.blocks, ¬b.covers start := by
  have hn : ∀ b ∈ e.log.blocks, ¬b.covers start := by
    intro b hb hc
    have ⟨l', hl', hm'⟩ := s.blocks_marked b hb
    rw [s.first_eq_of_covers hb hc] at hl'
    cases hl.symm.trans hl'
    cases hm.symm.trans <| Detector.marker?_eq_some_iff.mpr hm'
  have hc := s.covered start le_rfl (Document.index_lt hl)
  rw [Excision.coverage, List.countP_eq_zero.mpr hn, Nat.zero_add] at hc
  exact ⟨List.count_pos_iff.mp <| hc ▸ Nat.one_pos, hn⟩

theorem exists_covers_of_marked (s : Segmentation ms d start e)
    (hl : d[start]? = some l) (hm : (Detector.ofMarkers ms).marker? l = some m) :
    ∃ b ∈ e.log.blocks, b.covers start := by
  have hk : start ∉ e.sources := by
    intro hk
    have ⟨n, hn, hi⟩ := List.mem_map.mp hk
    have hl' := s.kept_lines n hn
    rw [hi] at hl'
    cases hl.symm.trans hl'
    cases hm.symm.trans <| Detector.marker?_ofMarkers_eq_none_iff.mpr (s.kept_unmarked n hn)
  have hc := s.covered start le_rfl (Document.index_lt hl)
  rw [Excision.coverage, List.count_eq_zero.mpr hk, Nat.add_zero] at hc
  exact List.countP_pos_iff.mp <| hc ▸ Nat.one_pos

-- As the kept lines are ordered, the line at the start can only be the first of them.
theorem exists_eq_keep (s : Segmentation ms d start e)
    (hl : d[start]? = some l) (h : start ∈ e.sources) :
    ∃ e' : Excision, e = e'.keep ⟨start, l⟩ := by
  have ⟨n, hn, hi⟩ := List.mem_map.mp h
  rcases e with ⟨_ | ⟨n', ns⟩, log⟩
  case nil => cases hn
  case cons =>
    have hi' : n'.index = start := by
      cases hn
      case head    => exact hi
      case tail hm =>
        have : n'.index < n.index :=
          (List.pairwise_cons.mp s.kept_ordered).1 _ <| List.mem_map_of_mem hm
        have : start ≤ n'.index := s.kept_inside n' (.head _)
        omega
    have hl' := s.kept_lines n' (.head _)
    rw [hi', hl, Option.some.injEq] at hl'
    exact ⟨⟨ns, log⟩, by rw [← hi', hl']; rfl⟩

-- As the blocks are ordered, the one over the start can only be the first of them.
theorem exists_eq_remove (s : Segmentation ms d start e)
    (hb : b ∈ e.log.blocks) (hc : b.covers start) : ∃ e' : Excision, e = e'.remove b := by
  have hf := s.first_eq_of_covers hb hc
  rcases e with ⟨kept, ⟨_ | ⟨b', bs⟩⟩⟩
  case nil => cases hb
  case cons =>
    cases hb
    case head    => exact ⟨⟨kept, ⟨bs⟩⟩, rfl⟩
    case tail hb =>
      have := (List.pairwise_cons.mp s.blocks_ordered).1 b hb
      have := s.blocks_inside b' (.head _)
      omega

theorem of_keep (s : Segmentation ms d start (e.keep ⟨start, l⟩))
    (hn : ∀ b ∈ e.log.blocks, ¬b.covers start) : Segmentation ms d (start + 1) e where
  blocks_inside b hb := by
    have := s.blocks_inside b hb
    have := mt Block.covers_iff.mpr <| hn b hb
    omega
  blocks_ordered := s.blocks_ordered
  blocks_marked  := s.blocks_marked
  blocks_end     := s.blocks_end
  kept_inside    := List.forall_mem_map.mp <| (List.pairwise_cons.mp s.kept_ordered).1
  kept_ordered   := (List.pairwise_cons.mp s.kept_ordered).2
  kept_lines     := fun n hn => s.kept_lines n (.tail _ hn)
  kept_unmarked  := fun n hn => s.kept_unmarked n (.tail _ hn)
  covered i hs hi := by
    have h := s.covered i (Nat.le_of_succ_le hs) hi
    rwa [Excision.coverage_keep, if_neg (Nat.ne_of_lt hs)] at h

theorem of_remove (s : Segmentation ms d start (e.remove b)) (hf : b.first = start) :
    Segmentation ms d (b.last + 1) e where
  blocks_inside c hc := by
    have := s.blocks_inside c (.tail _ hc)
    have := (List.pairwise_cons.mp s.blocks_ordered).1 c hc
    omega
  blocks_ordered := (List.pairwise_cons.mp s.blocks_ordered).2
  blocks_marked  := fun c hc => s.blocks_marked c (.tail _ hc)
  blocks_end     := fun c hc => s.blocks_end c (.tail _ hc)
  kept_inside n hn := by
    have hi := s.kept_inside n hn
    have hin := s.blocks_inside b (.head _)
    have h := s.covered n.index hi <| Document.index_lt <| s.kept_lines n hn
    have hpos : 0 < e.sources.count n.index :=
      List.count_pos_iff.mpr <| List.mem_map_of_mem hn
    -- Otherwise the line would be kept and also lie in the block.
    by_contra hle
    rw [Excision.coverage_remove, if_pos (Block.covers_iff.mpr (by omega)),
      Excision.coverage] at h
    omega
  kept_ordered   := s.kept_ordered
  kept_lines     := s.kept_lines
  kept_unmarked  := s.kept_unmarked
  covered i hs hi := by
    have hin := s.blocks_inside b (.head _)
    have h := s.covered i (by omega) hi
    rwa [Excision.coverage_remove, if_neg (mt Block.covers_iff.mp (by omega))] at h

theorem eq_keep (s : Segmentation ms d start e)
    (hl : d[start]? = some l) (hm : (Detector.ofMarkers ms).marker? l = none) :
    ∃ e', e = e'.keep ⟨start, l⟩ ∧ Segmentation ms d (start + 1) e' := by
  have ⟨hk, hn⟩ := s.mem_sources_of_unmarked hl hm
  have ⟨e', he⟩ := s.exists_eq_keep hl hk
  subst he
  exact ⟨e', rfl, s.of_keep hn⟩

theorem eq_remove (s : Segmentation ms d start e)
    (hl : d[start]? = some l) (hm : (Detector.ofMarkers ms).marker? l = some m) :
    ∃ stop e', d.blockEnd? start = some stop ∧ e = e'.remove ⟨start, stop.index, m, stop.closed⟩ ∧
      Segmentation ms d (stop.index + 1) e' := by
  have ⟨b, hb, hc⟩ := s.exists_covers_of_marked hl hm
  have ⟨e', he⟩ := s.exists_eq_remove hb hc
  subst he
  have hf := s.first_eq_of_covers hb hc
  have ⟨l', hl', hm'⟩ := s.blocks_marked b hb
  have hends := s.blocks_end b hb
  rw [hf] at hl' hends
  cases hl.symm.trans hl'
  cases hm.symm.trans <| Detector.marker?_eq_some_iff.mpr hm'
  have hstop := Document.blockEnd?_eq_some_iff.mpr ⟨Document.index_lt hl, hends⟩
  exact ⟨_, e', hstop, by rw [← hf], s.of_remove hf⟩

theorem cut {start : Nat} {e : Excision} (s : Segmentation ms d start e) :
    Cut (.ofMarkers ms) d start e := by
  by_cases h : start < d.length
  case neg =>
    have h := Nat.le_of_not_lt h
    exact s.eq_nil h ▸ .done h
  case pos =>
    have hl := List.getElem?_eq_getElem h
    cases hm : (Detector.ofMarkers ms).marker? d[start]
    case none =>
      have ⟨e', he, s'⟩ := s.eq_keep hl hm
      exact he ▸ .keep hl hm s'.cut
    case some m =>
      have ⟨stop, e', hb, he, s'⟩ := s.eq_remove hl hm
      have hle := Document.start_le_of_blockEnd? hb
      exact he ▸ .block hl hm hb s'.cut
termination_by d.length - start

theorem iff_eq_excise : Segmentation ms d 0 e ↔ d.excise (.ofMarkers ms) = e where
  mp s  := Cut.iff_eq_excise.mp s.cut
  mpr h := of_cut <| Cut.iff_eq_excise.mpr h

-- A block that never closes runs to the end of the document, so that no block can follow it.
theorem closed_of_mem_dropLast (s : Segmentation ms d start e)
    (hb : b ∈ e.log.blocks.dropLast) : b.closed := by
  have hlt := s.blocks_ordered.rel_dropLast_getLast hb
  have hin := s.blocks_inside _ <| List.getLast_mem <| List.ne_nil_of_mem <|
    List.dropLast_subset _ hb
  by_contra hc
  have he := s.blocks_end b <| List.dropLast_subset _ hb
  rw [Bool.eq_false_of_not_eq_true hc] at he
  cases he
  omega

end Segmentation

-- Every document has exactly one segmentation: what the rewriting returns, which never fails.
theorem Document.rewrite_unique_segmentation (ms : List Marker) (d : Document) :
    (d.rewrite (.ofMarkers ms) = .ok (d.excise (.ofMarkers ms))) ∧
    (∀ e, Segmentation ms d 0 e ↔ e = d.excise (.ofMarkers ms)) ∧
    (∀ b ∈ (d.excise (.ofMarkers ms)).log.blocks.dropLast, b.closed) := by
  have hs : Segmentation ms d 0 (d.excise (.ofMarkers ms)) := Segmentation.iff_eq_excise.mpr rfl
  refine ⟨d.rewrite_eq_ok _, fun e => ?_, fun b => hs.closed_of_mem_dropLast⟩
  rw [Segmentation.iff_eq_excise, eq_comm]

end TabPruning
