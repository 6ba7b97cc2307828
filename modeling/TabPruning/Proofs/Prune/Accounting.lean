import Mathlib.Data.List.Forall2
import TabPruning.Proofs.Config.Validation
import TabPruning.Proofs.Prune.Stages

namespace TabPruning

namespace Document

-- The lines at the given indices.
def select (d : Document) (indices : List Nat) : Document :=
  indices.filterMap (d[·]?)

theorem select_map_index {d : Document} {ls : List NumberedLine}
    (h : ∀ n ∈ ls, d[n.index]? = some n.line) : d.select (ls.map (·.index)) = ls.map (·.line) := by
  induction ls
  case nil => rfl
  case cons n ls ih =>
    have ⟨hn, hls⟩ := List.forall_mem_cons.mp h
    rw [select, List.map_cons, List.filterMap_cons_some hn, ← select, ih hls, List.map_cons]

theorem mem_select (d : Document) {indices : List Nat} (hi : i ∈ indices) (hl : d[i]? = some l) :
    l ∈ d.select indices :=
  List.mem_filterMap.mpr ⟨i, hi, hl⟩

theorem select_subset (d : Document) (indices : List Nat) : d.select indices ⊆ d := by
  intro l hl
  have ⟨_, _, hl⟩ := List.mem_filterMap.mp hl
  exact List.mem_of_getElem? hl

theorem length_select {d : Document} {indices : List Nat} (h : ∀ i ∈ indices, i < d.length) :
    (d.select indices).length = indices.length := by
  induction indices
  case nil => rfl
  case cons i is ih =>
    have ⟨hi, his⟩ := List.forall_mem_cons.mp h
    rw [select, List.filterMap_cons_some (List.getElem?_eq_getElem hi), ← select, List.length_cons,
      ih his, List.length_cons]

end Document

-- The removals that took a second line along.
def Outcome.wrapped (o : Outcome) : List FieldRemoval :=
  o.removals.filter (·.linesRemoved = 2)

-- The line of index `i` went with the open declaration that `r` reports: of all lines after the
-- declaration, it comes before every one that is kept.
structure FieldRemoval.Continues
    (d : Document) (kept : List Nat) (r : FieldRemoval) (i : Nat) : Prop where
  after     : r.line ≤ i
  next      : ∀ k ∈ kept, r.line ≤ k → i < k
  declared  : ∃ l, d[r.line - 1]? = some l ∧ l.declares r.field.toList ∧ l.endsWithComma = false
  continues : ∃ l, d[i]? = some l ∧ l.endsWithComma ∧ l.declaresSome = false ∧
    l.startsWithCloser = false

-- The lines of a document, told by the outcome of pruning it, the indices of the lines it kept and
-- those of the lines that continued a declaration.
structure Accounting
    (d : Document) (o : Outcome) (kept continuations : List Nat) : Prop where
  ordered   : kept.Pairwise (· < ·)
  inside    : ∀ i ∈ kept, i < d.length
  text      : o.text = String.ofList (d.select kept).toText
  total     : kept.length + o.log.removedLineCount +
    (o.removals.map (·.linesRemoved)).sum = d.length
  counts    : ∀ r ∈ o.removals, r.linesRemoved = 1 ∨ r.linesRemoved = 2
  declared  : ∀ r ∈ o.removals, 0 < r.line ∧
    ∃ l, d[r.line - 1]? = some l ∧ l.declares r.field.toList
  continued : List.Forall₂ (FieldRemoval.Continues d kept) o.wrapped continuations
  once      : ∀ i < d.length, kept.count i + o.log.blocks.countP (·.covers i) +
    o.removals.countP (·.line = i + 1) + continuations.count i = 1

theorem Cut.length_eq {detector : Detector} {d : Document} (c : Cut detector d i e)
    (h : i ≤ d.length) : i + e.kept.length + e.log.removedLineCount = d.length := by
  induction c
  case done hi =>
    simp [BlockLog.removedLineCount]
    omega
  case keep hl _ _ ih =>
    have := ih <| Document.index_lt hl
    simp_all [Excision.keep]
    omega
  case block hb _ ih =>
    obtain ⟨_, he⟩ := Document.blockEnd?_eq_some_iff.mp hb
    have := Document.start_le_of_blockEnd? hb
    have := ih he.index_lt
    simp_all [Excision.remove, BlockLog.removedLineCount, Block.length]
    omega

namespace Deletion

-- The indices of the lines that continued a declaration.
def continuations (xs : List Deletion) : List Nat :=
  xs.filterMap fun x => x.continuation.map (·.index)

theorem linesRemoved_eq (x : Deletion) :
    x.removal.linesRemoved = if x.continuation.isSome then 2 else 1 := by
  rcases x with ⟨_, _, _ | _⟩ <;> rfl

theorem count_lines (xs : List Deletion) (i : Nat) :
    ((xs.flatMap lines).map (·.index)).count i =
      (xs.map removal).countP (·.line = i + 1) + (continuations xs).count i := by
  induction xs
  case nil => rfl
  case cons x xs ih =>
    rcases x with ⟨_, l, _ | n⟩ <;>
      simp_all [lines, removal, continuations, List.count_cons, List.countP_cons] <;> omega

theorem forall₂_continuations {P : FieldRemoval → Nat → Prop} {xs : List Deletion}
    (h : ∀ x ∈ xs, ∀ n ∈ x.continuation, P x.removal n.index) :
    List.Forall₂ P ((xs.map removal).filter (·.linesRemoved = 2)) (continuations xs) := by
  induction xs
  case nil => exact .nil
  case cons x xs ih =>
    have ⟨hx, hxs⟩ := List.forall_mem_cons.mp h
    rcases x with ⟨_, l, _ | n⟩
    case none => simpa [continuations, removal, lines] using ih hxs
    case some =>
      have := hx n rfl
      simpa [continuations, removal, lines] using ⟨this, ih hxs⟩

end Deletion

namespace Passes

variable {fields : List String} {d : Document} {ls kept : List NumberedLine} {xs : List Deletion}

theorem mem_of_mem_lines (p : Passes fields ls kept xs) (hx : x ∈ xs) (hn : n ∈ x.lines) : n ∈ ls :=
  p.perm.mem_iff.mpr <| List.mem_append_right _ <| List.mem_flatMap.mpr ⟨x, hx, hn⟩

theorem length_eq (p : Passes fields ls kept xs) :
    ls.length = kept.length + ((xs.map Deletion.removal).map (·.linesRemoved)).sum := by
  rw [p.perm.length_eq, List.length_append, List.length_flatMap, List.map_map]
  rfl

theorem count_eq (p : Passes fields ls kept xs) (i : Nat) :
    (ls.map (·.index)).count i = (kept.map (·.index)).count i +
      (xs.map Deletion.removal).countP (·.line = i + 1) + (Deletion.continuations xs).count i := by
  rw [(p.perm.map _).count_eq, List.map_append, List.count_append, Deletion.count_lines,
    Nat.add_assoc]

theorem index_ne (p : Passes fields ls kept xs) (ho : ls.Pairwise (·.index < ·.index))
    (hx : x ∈ xs) (hn : n ∈ x.lines) (hl : l ∈ kept) : n.index ≠ l.index := by
  have hnd : (ls.map (·.index)).Nodup := List.pairwise_map.mpr <| ho.imp Nat.ne_of_lt
  rw [(p.perm.map _).nodup_iff, List.map_append, List.nodup_append] at hnd
  have hn' := List.mem_map_of_mem (f := (·.index)) <| List.mem_flatMap.mpr ⟨x, hx, hn⟩
  exact (hnd.2.2 _ (List.mem_map_of_mem hl) _ hn').symm

theorem continues (p : Passes fields ls kept xs) (ho : ls.Pairwise (·.index < ·.index))
    (hd : ∀ n ∈ ls, d[n.index]? = some n.line) (hx : x ∈ xs) (hn : n ∈ x.continuation) :
    x.removal.Continues d (kept.map (·.index)) n.index := by
  have hs := p.sound x hx
  have ⟨hopen, hcont⟩ := hs.continued n hn
  have ⟨hlt, hb⟩ := p.between ho x hx n hn
  have hm : n ∈ x.lines := .tail _ <| Option.mem_toList.mpr hn
  simp only [Line.isContinuation, Bool.and_eq_true, Bool.not_eq_true'] at hcont
  constructor
  case after => exact hlt
  case next =>
    refine List.forall_mem_map.mpr fun l hl hle => ?_
    refine Nat.lt_of_le_of_ne ?_ <| p.index_ne ho hx hm hl
    exact (hb l hl).resolve_left <| Nat.not_le_of_lt hle
  case declared =>
    exact ⟨_, hd _ <| p.mem_of_mem_lines hx (.head _), hs.declared, hopen⟩
  case continues =>
    exact ⟨_, hd _ <| p.mem_of_mem_lines hx hm, hcont.1.1, hcont.1.2, hcont.2⟩

end Passes

variable {ms : List Marker} {fields : List String} {d : Document}

-- Passes over what a segmentation keeps account for every line of the document.
theorem Segmentation.accounting (s : Segmentation ms d 0 e) (p : Passes fields e.kept kept xs) :
    Accounting d
      ⟨String.ofList (Document.toText (kept.map (·.line))), e.log, xs.map Deletion.removal⟩
      (kept.map (·.index)) (Deletion.continuations xs) := by
  have ho : e.kept.Pairwise (·.index < ·.index) := List.pairwise_map.mp s.kept_ordered
  constructor
  case ordered => exact List.pairwise_map.mpr <| ho.sublist p.sublist
  case inside =>
    exact List.forall_mem_map.mpr fun n hn =>
      Document.index_lt <| s.kept_lines n <| p.sublist.subset hn
  case text =>
    rw [Document.select_map_index fun n hn => s.kept_lines n <| p.sublist.subset hn]
  case total =>
    have := s.cut.length_eq <| Nat.zero_le _
    have := p.length_eq
    simp only [List.length_map]
    omega
  case counts =>
    refine List.forall_mem_map.mpr fun x _ => ?_
    rw [x.linesRemoved_eq]
    split <;> simp
  case declared =>
    refine List.forall_mem_map.mpr fun x hx => ⟨Nat.succ_pos _, x.declaration.line, ?_, ?_⟩
    case refine_1 => exact s.kept_lines _ <| p.mem_of_mem_lines hx <| .head _
    case refine_2 => exact p.sound x hx |>.declared
  case continued =>
    exact Deletion.forall₂_continuations fun x hx n hn => p.continues ho s.kept_lines hx hn
  case once =>
    intro i hi
    have hc := s.covered i (Nat.zero_le _) hi
    have hp := p.count_eq i
    rw [Excision.coverage, Excision.sources, hp] at hc
    dsimp only
    omega

theorem Config.exists_accounting {c : Config} (hn : ∀ f ∈ c.fields, f.toList ≠ []) (text : String) :
    ∃ kept continuations, Accounting (.ofText text.toList) (c.prune text) kept continuations := by
  have ⟨xs, p, hr⟩ := stripFields_passes c.fields (c.excise text).kept
  have ha := (c.excise_segmentation text).accounting p
  rw [prune_eq_residue hn, residue, hr]
  exact ⟨_, _, ha⟩

-- Every line of the input is accounted for, once.
theorem Config.prune_accounts_for_lines {c : Config} (hc : c.validate = .ok ()) (text : String) :
    ∃ kept continuations, Accounting (.ofText text.toList) (c.prune text) kept continuations :=
  exists_accounting (fields_ne_nil hc) text

theorem Config.prune_accounts_for_open_declaration :
    let c : Config := { markers := [.team], fields := ["a"] }
    let text := "x\na: 1\n+ 2,\ny"
    c.validate = .ok () ∧
      ∃ kept continuations, Accounting (.ofText text.toList) (c.prune text) kept continuations :=
  ⟨rfl, prune_accounts_for_lines rfl _⟩

end TabPruning
