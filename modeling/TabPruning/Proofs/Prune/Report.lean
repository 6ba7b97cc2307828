import Mathlib.Algebra.Order.BigOperators.Group.Finset
import Mathlib.Data.List.Sort
import Mathlib.Data.List.TFAE
import Mathlib.Tactic.TFAE
import TabPruning.Proofs.Prune.Accounting

namespace TabPruning

open Finset

-- Lines are numbered from one.
def Block.names (b : Block) (number : Nat) : Bool :=
  b.firstLine ≤ number && number ≤ b.lastLine

def FieldRemoval.names (r : FieldRemoval) (number : Nat) : Bool :=
  r.line ≤ number && number ≤ r.line + r.linesRemoved - 1

namespace Outcome

-- How many blocks and removals name the line of this number.
def timesReported (o : Outcome) (number : Nat) : Nat :=
  o.log.blocks.countP (·.names number) + o.removals.countP (·.names number)

-- The indices of the lines that the outcome does not name.
def unreported (o : Outcome) (length : Nat) : List Nat :=
  (List.range length).filter fun i => o.timesReported (i + 1) = 0

-- The document without the lines that the outcome names.
def remainder (o : Outcome) (d : Document) : Document :=
  d.select (o.unreported d.length)

end Outcome

theorem Block.names_succ (b : Block) (i : Nat) : b.names (i + 1) = b.covers i := by
  simp [names, covers, firstLine, lastLine]

-- A removal names its own line and, if it took two, the line after.
theorem FieldRemoval.countP_names {rs : List FieldRemoval} (i : Nat)
    (h : ∀ r ∈ rs, r.linesRemoved = 1 ∨ r.linesRemoved = 2) :
    rs.countP (·.names (i + 1)) = rs.countP (·.line = i + 1) +
      ((rs.filter (·.linesRemoved = 2)).map (·.line)).count i := by
  induction rs
  case nil => rfl
  case cons r rs ih =>
    have ⟨hr, hrs⟩ := List.forall_mem_cons.mp h
    cases hr
    case inl h1 =>
      have hn : r.names (i + 1) = decide (r.line = i + 1) := by grind [names]
      simp [List.countP_cons, hn, ih hrs, h1]
      omega
    case inr h2 =>
      have hn : r.names (i + 1) = (decide (r.line = i + 1) || decide (r.line = i)) := by
        grind [names]
      simp [List.countP_cons, hn, ih hrs, h2, List.count_cons]
      grind

theorem sum_count_eq_length {l : List Nat} {n : Nat} (h : ∀ i ∈ l, i < n) :
    ∑ i ∈ range n, l.count i = l.length := by
  simpa using Multiset.sum_count_eq_card (s := range n) (m := l) (by simpa using h)

theorem forall_exists_of_forall₂ {R : α → β → Prop} {as : List α} {bs : List β}
    (h : List.Forall₂ R as bs) (ha : a ∈ as) : ∃ b ∈ bs, R a b := by
  induction h
  case nil => cases ha
  case cons hr _ ih =>
    cases ha
    case head    => exact ⟨_, .head _, hr⟩
    case tail ha =>
      have ⟨b, hb, hr⟩ := ih ha
      exact ⟨b, .tail _ hb, hr⟩

theorem Document.eq_nil_of_toText_eq_nil {d : Document} (h : d.toText = []) : ∀ l ∈ d, l = [] := by
  induction d
  case nil => exact fun _ => nofun
  case cons l ls ih =>
    cases ls
    case nil => simpa [toText] using h
    case cons => simp [toText] at h

theorem Document.toText_inj {d d' : Document} (hd : d ≠ []) (hd' : d' ≠ [])
    (hf : ∀ l ∈ d, '\n' ∉ l) (hf' : ∀ l ∈ d', '\n' ∉ l) (h : d.toText = d'.toText) : d = d' := by
  rw [← ofText_toText hd hf, h, ofText_toText hd' hf']

theorem eq_of_forall₂_le_of_sum_le {l l' : List Nat}
    (h : List.Forall₂ (· ≤ ·) l l') (hs : l'.sum ≤ l.sum) : l = l' := by
  induction h
  case nil => rfl
  case cons hle h ih =>
    have := h.sum_le_sum
    simp only [List.sum_cons] at hs
    rw [ih <| by omega]
    congr 1
    omega

namespace Accounting

variable {d : Document} {o : Outcome} {kept continuations : List Nat}

theorem exists_wrapped (a : Accounting d o kept continuations) :
    ∀ i ∈ continuations, ∃ r ∈ o.wrapped, r.Continues d kept i :=
  fun _ hi => forall_exists_of_forall₂ a.continued.flip hi

theorem exists_continuation (a : Accounting d o kept continuations) :
    ∀ r ∈ o.wrapped, ∃ i ∈ continuations, r.Continues d kept i :=
  fun _ hr => forall_exists_of_forall₂ a.continued hr

theorem continuation_lt (a : Accounting d o kept continuations) :
    ∀ i ∈ continuations, i < d.length := by
  intro i hi
  have ⟨_, _, hc⟩ := a.exists_wrapped i hi
  have ⟨_, hl, _⟩ := hc.continues
  exact Document.index_lt hl

-- The line after a wrapped declaration is in the document, and it is not kept.
theorem wrapped_line (a : Accounting d o kept continuations) :
    ∀ r ∈ o.wrapped, r.line < d.length ∧ r.line ∉ kept := by
  intro r hr
  have ⟨i, hi, hc⟩ := a.exists_continuation r hr
  refine ⟨Nat.lt_of_le_of_lt hc.after <| a.continuation_lt i hi, fun hk => ?_⟩
  exact Nat.not_lt_of_le hc.after <| hc.next _ hk le_rfl

-- The report counts the line after a wrapped declaration where the accounting counts the line that
-- continued it.
theorem times_add_count (a : Accounting d o kept continuations) (hi : i < d.length) :
    kept.count i + o.timesReported (i + 1) + continuations.count i =
      1 + (o.wrapped.map (·.line)).count i := by
  have h := a.once i hi
  rw [Outcome.timesReported, FieldRemoval.countP_names i a.counts, ← Outcome.wrapped]
  simp only [Block.names_succ]
  omega

theorem times_eq_zero_of_kept (a : Accounting d o kept continuations) (hi : i ∈ kept) :
    o.timesReported (i + 1) = 0 := by
  have h := a.times_add_count (a.inside i hi)
  have hk : 0 < kept.count i := List.count_pos_iff.mpr hi
  have hw : i ∉ o.wrapped.map (·.line) := by
    intro hw
    have ⟨r, hr, hl⟩ := List.mem_map.mp hw
    exact (a.wrapped_line r hr).2 <| hl ▸ hi
  rw [List.count_eq_zero.mpr hw] at h
  omega

theorem kept_nodup (a : Accounting d o kept continuations) : kept.Nodup :=
  a.ordered.imp Nat.ne_of_lt

theorem count_kept_add_times_of_le (a : Accounting d o kept continuations)
    (h : o.timesReported (i + 1) ≤ 1) : kept.count i + o.timesReported (i + 1) ≤ 1 := by
  by_cases hi : i ∈ kept
  case pos => simpa [a.times_eq_zero_of_kept hi] using List.nodup_iff_count_le_one.mp a.kept_nodup i
  case neg => simpa [List.count_eq_zero.mpr hi] using h

theorem sum_count_kept_add_times (a : Accounting d o kept continuations) :
    ∑ i ∈ range d.length, (kept.count i + o.timesReported (i + 1)) = ∑ _i ∈ range d.length, 1 := by
  have h := sum_congr rfl fun i hi => a.times_add_count (mem_range.mp hi)
  have hw : ∀ i ∈ o.wrapped.map (·.line), i < d.length :=
    List.forall_mem_map.mpr fun r hr => (a.wrapped_line r hr).1
  simp only [sum_add_distrib, sum_count_eq_length hw, sum_count_eq_length a.continuation_lt,
    List.length_map, a.continued.length_eq] at h ⊢
  omega

-- No line is named twice just when every line is either kept or named.
theorem times_le_one_iff (a : Accounting d o kept continuations) :
    (∀ i < d.length, o.timesReported (i + 1) ≤ 1) ↔
      ∀ i < d.length, kept.count i + o.timesReported (i + 1) = 1 where
  mp h i hi := by
    have hle : ∀ i ∈ range d.length, kept.count i + o.timesReported (i + 1) ≤ 1 :=
      fun i hi => a.count_kept_add_times_of_le <| h i <| mem_range.mp hi
    exact (sum_eq_sum_iff_of_le hle).mp a.sum_count_kept_add_times i <| mem_range.mpr hi
  mpr h i hi := by
    have := h i hi
    omega

theorem mem_unreported {length : Nat} :
    i ∈ o.unreported length ↔ i < length ∧ o.timesReported (i + 1) = 0 := by
  simp [Outcome.unreported]

theorem unreported_ordered (o : Outcome) (length : Nat) :
    (o.unreported length).Pairwise (· < ·) :=
  List.pairwise_lt_range.filter _

theorem kept_subset_unreported (a : Accounting d o kept continuations) :
    kept ⊆ o.unreported d.length :=
  fun _ hi => mem_unreported.mpr ⟨a.inside _ hi, a.times_eq_zero_of_kept hi⟩

theorem unreported_eq_kept_iff (a : Accounting d o kept continuations) :
    o.unreported d.length = kept ↔ ∀ i < d.length, o.timesReported (i + 1) ≤ 1 where
  mp h := by
    have hle : ∀ i ∈ range d.length, 1 ≤ kept.count i + o.timesReported (i + 1) := by
      intro i hi
      by_cases ht : o.timesReported (i + 1) = 0
      case pos =>
        have hk : i ∈ kept := h ▸ mem_unreported.mpr ⟨mem_range.mp hi, ht⟩
        exact Nat.le_add_right_of_le <| List.count_pos_iff.mpr hk
      case neg => omega
    refine a.times_le_one_iff.mpr fun i hi => ?_
    exact (sum_eq_sum_iff_of_le hle).mp a.sum_count_kept_add_times.symm i (mem_range.mpr hi) |>.symm
  mpr h := by
    refine (unreported_ordered o _).eq_of_mem_iff a.ordered fun i => ⟨fun hi => ?_, ?_⟩
    case refine_1 =>
      have ⟨hi, ht⟩ := mem_unreported.mp hi
      have := a.times_le_one_iff.mp h i hi
      exact List.count_pos_iff.mp <| by omega
    case refine_2 => exact fun hi => a.kept_subset_unreported hi

-- A line that is neither kept nor named ends with a comma, so that it cannot be blank.
theorem ne_nil_of_unreported (a : Accounting d o kept continuations) (hl : d[i]? = some l)
    (hk : i ∉ kept) (ht : o.timesReported (i + 1) = 0) : l ≠ [] := by
  have h := a.times_add_count <| Document.index_lt hl
  rw [List.count_eq_zero.mpr hk, ht] at h
  have hi : i ∈ continuations := List.count_pos_iff.mp <| by omega
  have ⟨r, _, hc⟩ := a.exists_wrapped i hi
  have ⟨l', hl', hcomma, _⟩ := hc.continues
  cases hl.symm.trans hl'
  rintro rfl
  exact absurd hcomma <| by decide

-- Where nothing is kept, every line that is not named shows in the remainder.
theorem unreported_eq_nil (a : Accounting d o [] continuations)
    (h : (o.remainder d).toText = []) : o.unreported d.length = [] := by
  refine List.eq_nil_iff_forall_not_mem.mpr fun i hi => ?_
  have ⟨hlt, ht⟩ := mem_unreported.mp hi
  have hl := List.getElem?_eq_getElem hlt
  have hmem : d[i] ∈ o.remainder d := d.mem_select hi hl
  refine a.ne_nil_of_unreported hl List.not_mem_nil ht ?_
  exact Document.eq_nil_of_toText_eq_nil h _ hmem

-- A remainder of as many lines as are kept has no others.
theorem unreported_eq_of_remainder_eq (a : Accounting d o kept continuations)
    (h : o.remainder d = d.select kept) : o.unreported d.length = kept := by
  have hlen := congrArg List.length h
  rw [Outcome.remainder, Document.length_select fun i hi => (mem_unreported.mp hi).1,
    Document.length_select a.inside] at hlen
  have hp := List.subperm_of_subset a.kept_nodup a.kept_subset_unreported
  exact hp.perm_of_length_le hlen.le |>.symm.eq_of_pairwise' (unreported_ordered o _) a.ordered

theorem text_eq_iff (a : Accounting d o kept continuations) (hf : ∀ l ∈ d, '\n' ∉ l) :
    String.ofList (o.remainder d).toText = o.text ↔ o.unreported d.length = kept where
  mpr h := by rw [Outcome.remainder, h, a.text]
  mp h := by
    rw [a.text, String.ofList_inj] at h
    cases hk : kept
    case nil =>
      rw [hk] at a h
      exact a.unreported_eq_nil h
    case cons k ks =>
      have hm : k ∈ kept := hk ▸ .head _
      have hl := List.getElem?_eq_getElem <| a.inside k hm
      have hr := List.ne_nil_of_mem <| d.mem_select (a.kept_subset_unreported hm) hl
      have hs := List.ne_nil_of_mem <| d.mem_select hm hl
      have := Document.toText_inj hr hs (fun _ hl => hf _ <| d.select_subset _ hl)
        (fun _ hl => hf _ <| d.select_subset _ hl) h
      exact hk ▸ a.unreported_eq_of_remainder_eq this

theorem wrapped_perm (a : Accounting d o kept continuations)
    (h : ∀ i < d.length, o.timesReported (i + 1) ≤ 1) :
    (o.wrapped.map (·.line)).Perm continuations := by
  refine List.perm_iff_count.mpr fun i => ?_
  by_cases hi : i < d.length
  case pos =>
    have := a.times_add_count hi
    have := a.times_le_one_iff.mp h i hi
    omega
  case neg =>
    have hw : i ∉ o.wrapped.map (·.line) := by
      rintro hw
      have ⟨r, hr, hl⟩ := List.mem_map.mp hw
      exact hi <| hl ▸ (a.wrapped_line r hr).1
    rw [List.count_eq_zero.mpr hw, List.count_eq_zero.mpr <| mt (a.continuation_lt i) hi]

-- If no line is named twice, what continued a declaration is the line after it.
theorem continuations_eq (a : Accounting d o kept continuations)
    (h : ∀ i < d.length, o.timesReported (i + 1) ≤ 1) :
    continuations = o.wrapped.map (·.line) := by
  have hle : List.Forall₂ (· ≤ ·) (o.wrapped.map (·.line)) continuations :=
    List.forall₂_map_left_iff.mpr <| a.continued.imp fun _ _ hc => hc.after
  exact (eq_of_forall₂_le_of_sum_le hle (a.wrapped_perm h).sum_eq.ge).symm

theorem times_le_one_of_adjacent (a : Accounting d o kept (o.wrapped.map (·.line))) :
    ∀ i < d.length, o.timesReported (i + 1) ≤ 1 := by
  intro i hi
  have := a.times_add_count hi
  omega

end Accounting

-- The report and the text agree just when the report names no line twice, which is when every line
-- that continued a declaration comes directly after it.
theorem Config.prune_report_tfae {c : Config} (hc : c.validate = .ok ()) (text : String) :
    [String.ofList ((c.prune text).remainder (.ofText text.toList)).toText = (c.prune text).text,
     ∀ i < (Document.ofText text.toList).length, (c.prune text).timesReported (i + 1) ≤ 1,
     ∀ kept continuations, Accounting (.ofText text.toList) (c.prune text) kept continuations →
      continuations = (c.prune text).wrapped.map (·.line),
     ∃ kept, Accounting (.ofText text.toList) (c.prune text) kept
      ((c.prune text).wrapped.map (·.line))].TFAE := by
  have ⟨kept, continuations, a⟩ := exists_accounting (fields_ne_nil hc) text
  tfae_have 1 ↔ 2 := (a.text_eq_iff Document.not_mem_of_mem_ofText).trans a.unreported_eq_kept_iff
  tfae_have 2 → 3 := fun h _ _ a => a.continuations_eq h
  tfae_have 3 → 4 := fun h => ⟨kept, h _ _ a ▸ a⟩
  tfae_have 4 → 2 := fun ⟨_, a⟩ => a.times_le_one_of_adjacent
  tfae_finish

theorem Config.prune_report_of_adjacent_lines :
    let c : Config := { markers := [.team], fields := ["a"] }
    let text := "x\na: 1\n+ 2,\ny"
    c.validate = .ok () ∧
      String.ofList ((c.prune text).remainder (.ofText text.toList)).toText =
        (c.prune text).text := by
  have hc : Config.validate { markers := [.team], fields := ["a"] } = .ok () := rfl
  exact ⟨hc, (prune_report_tfae hc _).out 1 0 |>.mp <| by decide +kernel⟩

-- An open declaration before a removed block takes along the line behind the block.
theorem Config.prune_report_not_faithful :
    ¬∀ (c : Config) (text : String), c.validate = .ok () →
      String.ofList ((c.prune text).remainder (.ofText text.toList)).toText =
        (c.prune text).text := by
  intro h
  have := h { markers := [.team], fields := ["nps_delay_hours"] }
    "nps_delay_hours: 5\nif (activeTab === 'team') \x7b\n\x7d\nfoo," rfl
  exact absurd this <| by decide +kernel

end TabPruning
