import TabPruning.Proofs.Block.Balance
import TabPruning.Proofs.Excision.Segmentation

namespace TabPruning

variable {ms : List Marker} {d : Document} {e : Excision} {start i k : Nat} {s : BlockEnd}

namespace Document.EndsAt

theorem depth_eq_zero (h : d.EndsAt start s) (hc : s.closed) : d.depth start s.index = 0 := by
  cases h
  case closed hl  => exact hl.1.balanced
  case unclosed   => cases hc

-- A block with a line behind it has closed.
theorem closed_of_index_lt (h : d.EndsAt start s) (hi : s.index + 1 < d.length) : s.closed := by
  cases h
  case closed       => rfl
  case unclosed hl  => exact absurd hi <| hl ▸ Nat.lt_irrefl _

end Document.EndsAt

theorem Segmentation.index_of_sources (s : Segmentation ms d start e)
    (h : e.sources[k]? = some i) : start ≤ i ∧ i < d.length := by
  have ⟨n, hn, hi⟩ := List.mem_map.mp <| List.mem_of_getElem? h
  subst hi
  exact ⟨s.kept_inside n hn, Document.index_lt <| s.kept_lines n hn⟩

namespace Cut

-- How deep a line stands is counted from the start of the cut lines.
theorem depth_eq (c : Cut (.ofMarkers ms) d start e) (h : e.sources[k]? = some i) :
    e.lines.depth 0 k = d.depth start i := by
  induction c generalizing k
  case done => simp [Excision.sources] at h
  case keep hl hm c ih =>
    cases k
    case zero =>
      simp only [Excision.sources, Excision.keep, List.map_cons, List.getElem?_cons_zero,
        Option.some.injEq] at h
      subst h
      rw [Document.depth_self hl]
      exact Document.depth_self rfl
    case succ k =>
      have hi := (Segmentation.of_cut c).index_of_sources h |>.1
      rw [← Document.depth_add (Nat.le_succ _) (Nat.le_of_succ_le hi), Document.depth_self hl,
        ← ih h]
      exact Document.depth_cons_succ ..
  case block hl hm hs c ih =>
    obtain ⟨_, he⟩ := Document.blockEnd?_eq_some_iff.mp hs
    obtain ⟨hi, hd⟩ := (Segmentation.of_cut c).index_of_sources h
    have hz := he.depth_eq_zero <| he.closed_of_index_lt <| Nat.lt_of_le_of_lt hi hd
    have hle := Nat.le_succ_of_le <| Document.start_le_of_blockEnd? hs
    rw [← Document.depth_add hle (Nat.le_of_succ_le hi), hz, Int.zero_add]
    exact ih h

theorem balance_eq (c : Cut (.ofMarkers ms) d start e) (h : ∀ b ∈ e.log.blocks, b.closed) :
    e.lines.balance = Document.balance (d.drop start) := by
  induction c
  case done hi => simp [Excision.lines, List.drop_eq_nil_of_le hi]
  case keep hl _ _ ih =>
    rw [Document.drop_eq_cons hl, Document.balance_cons, ← ih h]
    exact Document.balance_cons ..
  case block hs _ ih =>
    have ⟨hc, h⟩ := List.forall_mem_cons.mp h
    have ⟨_, he⟩ := Document.blockEnd?_eq_some_iff.mp hs
    have hle := Nat.le_succ_of_le <| Document.start_le_of_blockEnd? hs
    rw [← Document.depth_add_drop hle, he.depth_eq_zero hc, Int.zero_add]
    exact ih h

end Cut

theorem BlockLog.hasUnclosed_eq_false_iff {log : BlockLog} :
    log.hasUnclosed = false ↔ ∀ b ∈ log.blocks, b.closed := by
  simp [hasUnclosed]

-- Every kept line stands as deep as before, and the braces of the whole document balance as before
-- if all blocks close.
theorem Document.excise_preserves_depth (ms : List Marker) (d : Document) :
    let e := d.excise (.ofMarkers ms)
    (∀ k < e.lines.length, ∃ i, e.sources[k]? = some i ∧ e.lines.depth 0 k = d.depth 0 i) ∧
    (e.log.hasUnclosed = false → e.lines.balance = d.balance) := by
  intro e
  have c : Cut (.ofMarkers ms) d 0 e := Cut.iff_eq_excise.mpr rfl
  refine ⟨fun k hk => ?_, fun h => c.balance_eq <| BlockLog.hasUnclosed_eq_false_iff.mp h⟩
  have hs : k < e.sources.length := by simpa [Excision.sources, Excision.lines] using hk
  have h := List.getElem?_eq_getElem hs
  exact ⟨_, h, c.depth_eq h⟩

theorem Document.excise_preserves_depth_around_blocks :
    let d : Document := ["\x7d", "if (activeTab === 'team') \x7b", "  team();", "\x7d", "\x7b y",
      "\x7bactiveTab === 'automation' && (", ")\x7d", "z \x7d"].map String.toList
    let e := d.excise (.ofMarkers Marker.all)
    2 < e.lines.length ∧ e.log.hasUnclosed = false ∧
      (∃ i, e.sources[2]? = some i ∧ e.lines.depth 0 2 = d.depth 0 i) ∧
      e.lines.balance = d.balance := by
  intro d e
  have hk : 2 < e.lines.length := by decide +kernel
  have hu : e.log.hasUnclosed = false := by decide +kernel
  have ⟨hd, hb⟩ := excise_preserves_depth Marker.all d
  exact ⟨hk, hu, hd 2 hk, hb hu⟩

end TabPruning
