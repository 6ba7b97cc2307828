import TabPruning.Proofs.Block.Nesting

namespace TabPruning

namespace Document

-- Read over all lines, the braces nest.
def WellNested (d : Document) : Prop :=
  Line.Nested d.flatten

instance (d : Document) : Decidable d.WellNested :=
  inferInstanceAs <| Decidable (Line.Nested d.flatten)

-- The text of the lines after `first` and before `last`.
def between (d : Document) (first last : Nat) : Line :=
  ((d.drop (first + 1)).take (last - (first + 1))).flatten

-- The opening brace behind `before` is closed on a later line, by the closing brace in front of
-- `rest`.
structure Encloses
    (d : Document) (first last : Nat) (before after inside rest : Line) : Prop where
  later   : first < last
  opening : d[first]? = some (before ++ '{' :: after)
  closing : d[last]? = some (inside ++ '}' :: rest)
  nested  : Line.Nested (after ++ d.between first last ++ inside)

-- Of the braces on the line `first` that are closed on a later line, this one comes first.
structure Outermost
    (d : Document) (first last : Nat) (before after inside rest : Line) : Prop
    extends d.Encloses first last before after inside rest where
  outermost : ∀ last' before' after' inside' rest',
    d.Encloses first last' before' after' inside' rest' → before.length ≤ before'.length

variable {d : Document} {first last start stop i : Nat} {before after inside rest : Line}

theorem flatten_eq_of_getElem? {l : Line} (h : d[i]? = some l) :
    d.flatten = (d.take i).flatten ++ (l ++ (d.drop (i + 1)).flatten) := by
  rw [← List.flatten_cons, ← drop_eq_cons h, ← List.flatten_append, List.take_append_drop]

-- A character of the text stands on some line.
theorem exists_line_of_flatten_eq {c : Char} {cs cs' : List Char} (h : d.flatten = cs ++ c :: cs') :
    ∃ i l l', d[i]? = some (l ++ c :: l') ∧ cs = (d.take i).flatten ++ l := by
  induction d generalizing cs
  case nil => simp at h
  case cons l d ih =>
    rw [List.flatten_cons, List.append_eq_append_iff] at h
    rcases h with ⟨cs, rfl, h⟩ | ⟨l', rfl, h⟩
    case inl =>
      have ⟨i, l, l', hl, hcs⟩ := ih h
      exact ⟨i + 1, l, l', hl, by simp [hcs]⟩
    case inr =>
      cases l'
      case nil =>
        have ⟨i, l, l', hl, hcs⟩ := ih <| show d.flatten = [] ++ c :: cs' from h.symm
        exact ⟨i + 1, l, l', hl, by simp [← hcs]⟩
      case cons c' l' =>
        cases h
        exact ⟨0, cs, l', rfl, by simp⟩

theorem WellNested.balance_eq_zero (w : d.WellNested) : d.balance = 0 :=
  d.balance_flatten ▸ w.braceDelta_eq_zero

-- Everything before the brace closes its own braces only, so something after it closes the brace.
theorem WellNested.exists_encloses (w : d.WellNested)
    (h : d[first]? = some (before ++ '{' :: after)) (ha : Line.ClosesOwn after) :
    ∃ last inside rest, d.Encloses first last before after inside rest := by
  have hf : d.flatten = ((d.take first).flatten ++ before) ++
      '{' :: (after :: d.drop (first + 1)).flatten := by
    rw [flatten_eq_of_getElem? h]
    simp
  have ho := w.closesOwn.of_prefix ⟨_, hf.symm⟩ |>.braceDelta_nonneg
  have hz := w.braceDelta_eq_zero
  rw [hf, Line.braceDelta_append, Line.braceDelta_open] at hz
  have hn : ¬Line.ClosesOwn (after :: d.drop (first + 1)).flatten := by
    intro hc
    have := hc.braceDelta_nonneg
    omega
  have ⟨text, _, ht, hnest⟩ := Line.exists_close hn
  obtain ⟨i, inside, rest, hl, hi⟩ := exists_line_of_flatten_eq ht
  cases i
  case zero =>
    cases hl
    have hp : inside ++ ['}'] <+: inside ++ '}' :: rest := by simp
    have hp := ha.of_prefix hp |>.braceDelta_nonneg
    have hz := hi ▸ hnest.braceDelta_eq_zero
    simp [Line.braceDelta_append] at hp hz
    omega
  case succ i =>
    rw [List.getElem?_cons_succ, List.getElem?_drop] at hl
    refine ⟨first + 1 + i, inside, rest, by omega, h, hl, ?_⟩
    simpa [between, hi] using hnest

namespace Encloses

theorem last_lt (e : d.Encloses first last before after inside rest) : last < d.length :=
  index_lt e.closing

-- The braces of the lines from `first` to `last`, without the enclosing ones and all between them.
theorem depth_eq (e : d.Encloses first last before after inside rest) :
    d.depth first last = before.braceDelta + rest.braceDelta := by
  obtain ⟨mid, rfl⟩ := Nat.exists_eq_add_one.mpr <| Nat.zero_lt_of_lt e.later
  have hl : first + 1 ≤ mid + 1 := e.later
  have hz := e.nested.braceDelta_eq_zero
  rw [Line.braceDelta_append, Line.braceDelta_append, between, balance_flatten] at hz
  rw [← depth_add first.le_succ e.later.le, ← depth_add hl mid.le_succ, depth_self e.opening,
    depth_self e.closing]
  simp only [Line.braceDelta_append, Line.braceDelta_open, Line.braceDelta_close]
  rw [depth, ← balance]
  omega

-- Up to the closing brace, the lines stand deeper than the text before the opening one.
theorem lt_depth (e : d.Encloses first last before after inside rest)
    (hi : first ≤ i) (hl : i < last) : before.braceDelta < d.depth first i := by
  have hp : after ++ ((d.drop (first + 1)).take (i + 1 - (first + 1))).flatten <+:
      after ++ d.between first last ++ inside := by
    rw [List.append_assoc, List.prefix_append_right_inj]
    refine List.IsPrefix.trans ?_ <| List.prefix_append ..
    exact (List.take_prefix_take_left (by omega)).flatten
  have hn := e.nested.closesOwn.of_prefix hp |>.braceDelta_nonneg
  rw [Line.braceDelta_append, balance_flatten] at hn
  rw [← depth_add (Nat.le_succ first) hi, depth_self e.opening, Line.braceDelta_append,
    Line.braceDelta_open, depth, ← balance]
  omega

-- If the text before the opening brace balances, no block ends before the closing one.
theorem depth_ne_zero (e : d.Encloses first last before after inside rest)
    (hz : before.braceDelta = 0) (hi : first < i) (hl : i < last) : d.depth first i ≠ 0 := by
  have := e.lt_depth hi.le hl
  omega

-- The first opening brace of a line is the first that is closed on a later line, if it is.
theorem outermost_of_not_mem (e : d.Encloses first last before after inside rest)
    (h : '{' ∉ before) : d.Outermost first last before after inside rest where
  toEncloses := e
  outermost := by
    intro _ before' _ _ _ e'
    have hl := Option.some.inj <| e.opening.symm.trans e'.opening
    rcases List.append_eq_append_iff.mp hl with ⟨l, hb, _⟩ | ⟨l, hb, hc⟩
    case inl => simp [hb]
    case inr =>
      cases l
      case nil      => simp [hb]
      case cons c l =>
        cases hc
        exact absurd (by simp [hb]) h

end Encloses

namespace Outermost

-- Otherwise a brace before it is left open, and closed on a later line.
theorem braceDelta_nonpos (o : d.Outermost first last before after inside rest)
    (w : d.WellNested) : before.braceDelta ≤ 0 := by
  by_contra hc
  obtain ⟨before', between, hb, _, hn⟩ := Line.exists_open le_rfl <| Int.not_le.mp hc
  have ha : Line.ClosesOwn after :=
    o.nested.closesOwn.of_prefix ⟨d.between first last ++ inside, by simp⟩
  have hl : d[first]? = some (before' ++ '{' :: (between ++ '{' :: after)) := by
    simpa [hb] using o.opening
  have ho : Line.ClosesOwn (between ++ ['{'] ++ after) := (hn.append <| by decide).append ha
  have ⟨_, _, _, e⟩ := w.exists_encloses hl <| by simpa using ho
  have hle := o.outermost _ _ _ _ _ e
  have hlen := congrArg List.length hb
  rw [List.length_append, List.length_cons] at hlen
  omega

theorem braceDelta_eq_zero (o : d.Outermost first last before after inside rest)
    (w : d.WellNested) (hc : Line.ClosesOwn (before ++ '{' :: after)) : before.braceDelta = 0 :=
  Int.le_antisymm (o.braceDelta_nonpos w) <|
    hc.of_prefix (List.prefix_append ..) |>.braceDelta_nonneg

end Outermost

theorem blockEnd?_eq_closed_iff (hs : start < stop) (hl : stop < d.length) :
    d.blockEnd? start = some ⟨stop, true⟩ ↔
      d.depth start stop = 0 ∧ ∀ i, start < i → i < stop → d.depth start i ≠ 0 := by
  rw [blockEnd?_eq_some_iff]
  constructor
  case mp =>
    rintro ⟨_, ⟨hb, hn⟩ | _⟩
    refine ⟨hb.balanced, fun i hs hi hz => ?_⟩
    have := hn ⟨hs, hi.trans hl, hz⟩
    omega
  case mpr =>
    intro ⟨hz, hn⟩
    refine ⟨hs.trans hl, .closed ⟨⟨hs, hl, hz⟩, fun i hb => ?_⟩⟩
    by_contra hi
    exact hn i hb.later (Nat.lt_of_not_le hi) hb.balanced

theorem le_of_blockEnd? (hl : stop < d.length)
    (hn : ∀ i, start < i → i < stop → d.depth start i ≠ 0) (hs : d.blockEnd? start = some s) :
    stop ≤ s.index := by
  have ⟨_, he⟩ := blockEnd?_eq_some_iff.mp hs
  by_contra hlt
  cases he
  case closed hb   => exact hn _ hb.1.later (Nat.lt_of_not_le hlt) hb.1.balanced
  case unclosed hi =>
    simp at hlt
    omega

-- Outside all braces of a well nested document, the last line at the latest balances a block.
theorem WellNested.exists_closed (w : d.WellNested) (hl : start + 1 < d.length)
    (h : balance (d.take start) = 0) : ∃ i, d.blockEnd? start = some ⟨i, true⟩ := by
  have ⟨s, hs⟩ := exists_blockEnd <| Nat.lt_of_succ_lt hl
  have ⟨_, he⟩ := blockEnd?_eq_some_iff.mp hs
  cases he
  case closed i _   => exact ⟨i, hs⟩
  case unclosed i hn hi =>
    have ht : balance (d.take start) + d.depth start i = balance (d.take (i + 1)) :=
      take_add_depth <| by omega
    rw [h, hi, List.take_length, w.balance_eq_zero, Int.zero_add] at ht
    exact absurd ⟨by omega, by omega, ht⟩ <| hn i

-- Where the braces of the document nest, a block ends with the line that closes the first brace
-- left open on its first line just when the braces around the enclosing ones balance and no line
-- before balances as well. The latter holds if the first line closes no brace of an earlier line;
-- and if it stands outside all braces, the block closes at any rate.
theorem block_ends_with_enclosing_iff (w : d.WellNested)
    (o : d.Outermost first last before after inside rest) :
    (d.blockEnd? first = some ⟨last, true⟩ ↔ before.braceDelta + rest.braceDelta = 0 ∧
      ∀ i, first < i → i < last → d.depth first i ≠ 0) ∧
    (Line.ClosesOwn (before ++ '{' :: after) →
      (d.blockEnd? first = some ⟨last, true⟩ ↔ rest.braceDelta = 0) ∧
      ∀ s, d.blockEnd? first = some s → last ≤ s.index) ∧
    (balance (d.take first) = 0 → ∃ i, d.blockEnd? first = some ⟨i, true⟩) := by
  have hlast := o.last_lt
  have hfirst : first + 1 < d.length := Nat.lt_of_le_of_lt o.later hlast
  have hiff := blockEnd?_eq_closed_iff o.later hlast
  rw [o.depth_eq] at hiff
  refine ⟨hiff, fun hc => ?_, w.exists_closed hfirst⟩
  have hz := o.braceDelta_eq_zero w hc
  have hpos : ∀ i, first < i → i < last → d.depth first i ≠ 0 := fun _ => o.depth_ne_zero hz
  refine ⟨?_, fun s => le_of_blockEnd? hlast hpos⟩
  rw [hiff, hz, Int.zero_add]
  exact and_iff_left hpos

-- The block of the first branch does not end with that branch, since the second one opens on the
-- same line.
theorem block_ends_behind_first_branch :
    let d : Document := ["f() \x7b", "if (activeTab === 'team') \x7b", "  if (x) \x7b y(); \x7d",
      "\x7d else \x7b", "  z();", "\x7d", "\x7d"].map String.toList
    let before := "if (activeTab === 'team') ".toList
    let rest := " else \x7b".toList
    d.WellNested ∧ d.Outermost 1 3 before [] [] rest ∧ Line.ClosesOwn (before ++ ['{']) ∧
      d.blockEnd? 1 ≠ some ⟨3, true⟩ ∧ ∀ s, d.blockEnd? 1 = some s → 3 ≤ s.index := by
  intro d before rest
  have w : d.WellNested := by decide +kernel
  have e : d.Encloses 1 3 before [] [] rest :=
    ⟨by decide, by decide +kernel, by decide +kernel, by decide +kernel⟩
  have o := e.outermost_of_not_mem <| by decide +kernel
  have hc : Line.ClosesOwn (before ++ ['{']) := by decide +kernel
  have ⟨_, h, _⟩ := block_ends_with_enclosing_iff w o
  have ⟨hiff, hle⟩ := h hc
  exact ⟨w, o, hc, mt hiff.mp <| by decide +kernel, hle⟩

-- A line that closes one brace and opens another leaves the nesting as deep as it was. Here the
-- first block that starts on such a line ends too early, and the second is cut at the end of the
-- document.
theorem block_end_not_enclosing :
    let d : Document := ["if (x) \x7b", "\x7d else if (activeTab === 'automation') \x7b", "  a();",
      "  b();", "\x7d", "if (y) \x7b", "\x7d else if (activeTab === 'team') \x7b", "\x7d",
      "z();"].map String.toList
    d.WellNested ∧
      d.Outermost 1 4 "\x7d else if (activeTab === 'automation') ".toList [] [] [] ∧
      d.blockEnd? 1 = some ⟨2, true⟩ ∧
      d.Outermost 6 7 "\x7d else if (activeTab === 'team') ".toList [] [] [] ∧
      d.blockEnd? 6 = some ⟨8, false⟩ := by
  intro d
  have e : d.Encloses 1 4 "\x7d else if (activeTab === 'automation') ".toList [] [] [] :=
    ⟨by decide, by decide +kernel, by decide +kernel, by decide +kernel⟩
  have e' : d.Encloses 6 7 "\x7d else if (activeTab === 'team') ".toList [] [] [] :=
    ⟨by decide, by decide +kernel, by decide +kernel, by decide +kernel⟩
  refine ⟨by decide +kernel, e.outermost_of_not_mem ?_, by decide +kernel,
    e'.outermost_of_not_mem ?_, by decide +kernel⟩
  all_goals decide +kernel

end Document

end TabPruning
