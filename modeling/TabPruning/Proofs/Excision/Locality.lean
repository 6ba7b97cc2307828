import TabPruning.Proofs.Excision.Depth

namespace TabPruning

def BlockEnd.shift (offset : Nat) (s : BlockEnd) : BlockEnd :=
  { s with index := offset + s.index }

def Block.shift (offset : Nat) (b : Block) : Block :=
  { b with first := offset + b.first, last := offset + b.last }

namespace Excision

def shift (offset : Nat) (e : Excision) : Excision :=
  ⟨e.kept.map fun n => { n with index := offset + n.index }, ⟨e.log.blocks.map (·.shift offset)⟩⟩

def append (e e' : Excision) : Excision :=
  ⟨e.kept ++ e'.kept, ⟨e.log.blocks ++ e'.log.blocks⟩⟩

variable {offset : Nat} {e e' : Excision}

theorem lines_shift : (e.shift offset).lines = e.lines := by
  rw [lines, shift, List.map_map]
  rfl

theorem sources_shift : (e.shift offset).sources = e.sources.map (offset + ·) := by
  rw [sources, shift, sources, List.map_map, List.map_map]
  rfl

theorem lines_append : (e.append e').lines = e.lines ++ e'.lines :=
  List.map_append

theorem sources_append : (e.append e').sources = e.sources ++ e'.sources :=
  List.map_append

end Excision

namespace BlockEnd

theorem scan_shift (offset : Nat) (depth : Int) (index : Nat) (ls : Document) :
    scan depth (offset + index) ls = (scan depth index ls).shift offset := by
  fun_induction scan depth index ls
  case case1      => rfl
  case case2 h    => rw [scan, if_pos h]; rfl
  case case3 h ih => rw [scan, if_neg h, ← ih]; rfl

-- Once it has closed, the scan looks no further.
theorem scan_append {depth : Int} {index : Nat} {ls : Document} (h : (scan depth index ls).closed)
    (ls' : Document) : scan depth index (ls ++ ls') = scan depth index ls := by
  fun_induction scan depth index ls
  case case1       => cases h
  case case2 hd    => rw [List.cons_append, scan, if_pos hd]
  case case3 hd ih => rw [List.cons_append, scan, if_neg hd, ih h]

end BlockEnd

variable {detector : Detector} {d d' : Document} {i : Nat} {s : BlockEnd} {e e' : Excision}

namespace Document

theorem blockEnd?_length_add (d d' : Document) (i : Nat) :
    (d ++ d').blockEnd? (d.length + i) = (d'.blockEnd? i).map (·.shift d.length) := by
  rw [blockEnd?, blockEnd?, List.drop_length_add_append]
  cases d'.drop i
  case nil  => rfl
  case cons => exact congrArg some <| BlockEnd.scan_shift ..

theorem blockEnd?_append_of_closed (hs : d.blockEnd? i = some s) (hc : s.closed) (d' : Document) :
    (d ++ d').blockEnd? i = some s := by
  have ⟨hi, _⟩ := blockEnd?_eq_some_iff.mp hs
  rw [blockEnd?, List.drop_eq_getElem_cons hi, Option.some.injEq] at hs
  subst hs
  rw [blockEnd?, List.drop_append_of_le_length hi.le, List.drop_eq_getElem_cons hi,
    List.cons_append]
  exact congrArg some <| BlockEnd.scan_append hc d'

theorem getElem?_length_add (d d' : Document) (i : Nat) : (d ++ d')[d.length + i]? = d'[i]? := by
  rw [List.getElem?_append_right (Nat.le_add_right ..), Nat.add_sub_cancel_left]

theorem getElem?_append_of_some {l : Line} (hl : d[i]? = some l) (d' : Document) :
    (d ++ d')[i]? = some l := by
  rw [List.getElem?_append_left (index_lt hl), hl]

end Document

namespace Cut

-- The appended lines are cut as they are on their own.
theorem shift (c : Cut detector d' i e) (d : Document) :
    Cut detector (d ++ d') (d.length + i) (e.shift d.length) := by
  induction c
  case done i hi =>
    refine .done ?_
    rw [List.length_append]
    omega
  case keep i _ _ hl hm _ ih =>
    exact .keep ((d.getElem?_length_add d' i).trans hl) hm ih
  case block i _ _ s _ hl hm hs _ ih =>
    have hs : (d ++ d').blockEnd? (d.length + i) = some (s.shift d.length) := by
      rw [Document.blockEnd?_length_add, hs, Option.map_some]
    exact .block ((d.getElem?_length_add d' i).trans hl) hm hs ih

-- What is cut up to the seam goes on behind it.
theorem append (c : Cut detector d i e) (hi : i ≤ d.length) (hc : ∀ b ∈ e.log.blocks, b.closed)
    (c' : Cut detector (d ++ d') d.length e') : Cut detector (d ++ d') i (e.append e') := by
  induction c
  case done hle =>
    rwa [Nat.le_antisymm hi hle]
  case keep hl hm _ ih =>
    have hi := Document.index_lt hl
    exact .keep (Document.getElem?_append_of_some hl d') hm (ih hi hc)
  case block hl hm hs _ ih =>
    have ⟨hclosed, hc⟩ := List.forall_mem_cons.mp hc
    have ⟨_, he⟩ := Document.blockEnd?_eq_some_iff.mp hs
    exact .block (Document.getElem?_append_of_some hl d') hm
      (Document.blockEnd?_append_of_closed hs hclosed d') (ih he.index_lt hc)

theorem kept_eq_nil (c : Cut detector d i e) (hi : d.length ≤ i) : e.kept = [] := by
  rw [← c.exciseFrom_eq, Document.exciseFrom_done hi]

theorem exists_of_kept_eq_nil (hk : e.kept = []) (detector : Detector) (d : Document) (i : Nat) :
    ∃ e', Cut detector d i e' ∧ e.kept <+: e'.kept :=
  ⟨_, Document.exciseFrom_cut detector d i, hk ▸ List.nil_prefix⟩

-- A block that never closes is the last, and it may now reach into the appended lines; up to it,
-- nothing changes.
theorem exists_kept_prefix (c : Cut detector d i e) (d' : Document) :
    ∃ e', Cut detector (d ++ d') i e' ∧ e.kept <+: e'.kept := by
  induction c
  case done => exact exists_of_kept_eq_nil rfl ..
  case keep hl hm _ ih =>
    have ⟨e', c', hp⟩ := ih
    exact ⟨_, .keep (Document.getElem?_append_of_some hl d') hm c',
      (List.prefix_cons_inj _).mpr hp⟩
  case block s _ hl hm hs c ih =>
    by_cases hc : s.closed
    case pos =>
      have ⟨e', c', hp⟩ := ih
      exact ⟨_, .block (Document.getElem?_append_of_some hl d') hm
        (Document.blockEnd?_append_of_closed hs hc d') c', hp⟩
    case neg =>
      have ⟨_, he⟩ := Document.blockEnd?_eq_some_iff.mp hs
      have hk := c.kept_eq_nil <| Nat.le_of_not_lt <| mt he.closed_of_index_lt hc
      exact exists_of_kept_eq_nil hk ..

end Cut

namespace Document

-- Where every block closes, it makes no difference whether lines are appended before or after the
-- blocks are removed; and in any case they take away none of the lines that were kept without them.
theorem excise_append (detector : Detector) (d d' : Document) :
    let e := d.excise detector
    let e' := d'.excise detector
    let whole := (d ++ d').excise detector
    (e.log.hasUnclosed = false →
      whole.lines = e.lines ++ e'.lines ∧
      whole.sources = e.sources ++ e'.sources.map (d.length + ·) ∧
      whole.log.blocks = e.log.blocks ++ e'.log.blocks.map (·.shift d.length)) ∧
    e.lines <+: whole.lines ∧ e.sources <+: whole.sources := by
  intro e e' whole
  have c : Cut detector d 0 e := Cut.iff_eq_excise.mpr rfl
  have c' : Cut detector d' 0 e' := Cut.iff_eq_excise.mpr rfl
  refine ⟨fun h => ?_, ?_⟩
  case refine_1 =>
    have hc := BlockLog.hasUnclosed_eq_false_iff.mp h
    have hw : whole = e.append (e'.shift d.length) :=
      Cut.iff_eq_excise.mp <| c.append (Nat.zero_le _) hc <| c'.shift d
    rw [hw, Excision.lines_append, Excision.lines_shift, Excision.sources_append,
      Excision.sources_shift]
    exact ⟨rfl, rfl, rfl⟩
  case refine_2 =>
    have ⟨e'', c'', hp⟩ := c.exists_kept_prefix d'
    have hw : whole = e'' := Cut.iff_eq_excise.mp c''
    rw [hw]
    exact ⟨hp.map _, hp.map _⟩

-- The appended lines may themselves end in a block that does not close.
theorem excise_append_of_unclosed_tail :
    let d : Document := ["a", "if (activeTab === 'team') \x7b", "\x7d"].map String.toList
    let d' : Document := ["b", "\x7bactiveTab === 'team' && (", "c"].map String.toList
    let whole := (d ++ d').excise (.ofMarkers Marker.all)
    (d.excise (.ofMarkers Marker.all)).log.hasUnclosed = false ∧
      whole.sources = [0] ++ [0].map (3 + ·) ∧
      whole.log.blocks = [⟨1, 2, .team, true⟩] ++ [⟨1, 2, .team, false⟩].map (Block.shift 3) := by
  intro d d' whole
  have hu : (d.excise (.ofMarkers Marker.all)).log.hasUnclosed = false := by decide +kernel
  have he : (d.excise (.ofMarkers Marker.all)).sources = [0] ∧
      (d.excise (.ofMarkers Marker.all)).log.blocks = [⟨1, 2, .team, true⟩] := by decide +kernel
  have he' : (d'.excise (.ofMarkers Marker.all)).sources = [0] ∧
      (d'.excise (.ofMarkers Marker.all)).log.blocks = [⟨1, 2, .team, false⟩] := by decide +kernel
  have ⟨_, hs, hb⟩ := (excise_append (.ofMarkers Marker.all) d d').1 hu
  rw [he.1, he'.1] at hs
  rw [he.2, he'.2] at hb
  exact ⟨hu, hs, hb⟩

end Document

end TabPruning
