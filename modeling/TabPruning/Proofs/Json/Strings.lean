import TabPruning.Proofs.Json.Grammar

namespace TabPruning.Json

variable {s t ds ds' cs rest : List Char} {c : Char} {n : Nat}

theorem CodeText.spells (h : CodeText n ds) : Spells hexEscape ds n := by
  intro rest
  match ds, h.four with
  | [a, b, c, d], _ =>
  refine ⟨by simp; omega, ?_⟩
  simp only [List.cons_append, List.nil_append, hexEscape]
  rw [h.value]

theorem toNat_valid (c : Char) :
    c.toNat < 0xD800 ∨ (0xDFFF < c.toNat ∧ c.toNat < 0x110000) :=
  c.valid

theorem not_isTrailingSurrogate (c : Char) : isTrailingSurrogate c.toNat = false := by
  have := toNat_valid c
  simp only [isTrailingSurrogate, Bool.and_eq_false_iff, decide_eq_false_iff_not]
  omega

theorem not_isLeadingSurrogate (c : Char) : isLeadingSurrogate c.toNat = false := by
  have := toNat_valid c
  simp only [isLeadingSurrogate, Bool.and_eq_false_iff, decide_eq_false_iff_not]
  omega

theorem CodeText.spells_unicodeEscape (h : CodeText c.toNat ds) : Spells unicodeEscape ds c := by
  intro rest
  have ⟨hr, he⟩ := h.spells rest
  refine ⟨hr, ?_⟩
  rw [unicodeEscape, he]
  simp [bind, Except.bind, not_isTrailingSurrogate, not_isLeadingSurrogate, Scan.map, pure,
    Except.pure, Char.ofNat_toNat]

theorem isLeadingSurrogate_leadingHalf (c : Char) : isLeadingSurrogate (leadingHalf c) := by
  have := toNat_valid c
  rw [isLeadingSurrogate, Bool.and_eq_true, decide_eq_true_eq, decide_eq_true_eq, leadingHalf]
  omega

theorem not_isTrailingSurrogate_leadingHalf (c : Char) :
    isTrailingSurrogate (leadingHalf c) = false := by
  have := toNat_valid c
  rw [isTrailingSurrogate, Bool.and_eq_false_iff, decide_eq_false_iff_not, decide_eq_false_iff_not,
    leadingHalf]
  omega

theorem isTrailingSurrogate_trailingHalf (c : Char) : isTrailingSurrogate (trailingHalf c) := by
  rw [isTrailingSurrogate, Bool.and_eq_true, decide_eq_true_eq, decide_eq_true_eq, trailingHalf]
  omega

theorem combineSurrogates_halves (h : 0x10000 ≤ c.toNat) :
    combineSurrogates (leadingHalf c) (trailingHalf c) = c := by
  have hn : (leadingHalf c - 0xD800) * 0x400 + (trailingHalf c - 0xDC00) + 0x10000 = c.toNat := by
    simp [leadingHalf, trailingHalf]
    omega
  rw [combineSurrogates, hn, Char.ofNat_toNat]

theorem unicodeEscape_pair (h : 0x10000 ≤ c.toNat) (hl : CodeText (leadingHalf c) ds)
    (ht : CodeText (trailingHalf c) ds') : Spells unicodeEscape (ds ++ '\\' :: 'u' :: ds') c := by
  intro rest
  have ⟨hr, he⟩ := hl.spells ('\\' :: 'u' :: ds' ++ rest)
  have ⟨hr', he'⟩ := ht.spells rest
  simp only [List.append_assoc, List.cons_append] at hr he ⊢
  refine ⟨by simp at hr hr' ⊢; omega, ?_⟩
  simp [unicodeEscape, he, trailingEscape, he', bind, Except.bind,
    not_isTrailingSurrogate_leadingHalf, isLeadingSurrogate_leadingHalf,
    isTrailingSurrogate_trailingHalf, combineSurrogates_halves h]
  rfl

theorem stringItem_unicodeEscape (h : Reads unicodeEscape s c rest) :
    Reads stringItem ('\\' :: 'u' :: s) (some c) rest := by
  have ⟨hr, h⟩ := h
  refine ⟨by simp; omega, ?_⟩
  simp [stringItem, escape, shortEscape?, h, bind, Except.bind]
  rfl

theorem Reads.escaped {d : Char} (h : shortEscape? c = some d) :
    Reads stringItem ('\\' :: c :: s) (some d) s := by
  refine ⟨Nat.lt_succ_of_lt <| Nat.lt_succ_self _, ?_⟩
  simp [stringItem, escape, h, bind, Except.bind]
  rfl

theorem CharText.spells (h : CharText c t) : Spells stringItem t (some c) := by
  intro rest
  cases h
  case plain hq hb hc =>
    refine ⟨by simp, ?_⟩
    simp only [List.singleton_append, stringItem, if_neg hq, if_neg hb, hc]
    rfl
  case short he => exact .escaped he
  case code h   => exact stringItem_unicodeEscape <| h.spells_unicodeEscape rest
  case pair h hl ht =>
    exact stringItem_unicodeEscape <| unicodeEscape_pair h hl ht rest

theorem Reads.stringBody_nil (h : Reads stringItem s none rest) : Reads stringBody s [] rest := by
  have ⟨hr, h⟩ := h
  refine ⟨hr, ?_⟩
  rw [stringBody, h]
  rfl

theorem Reads.stringBody_cons (h : Reads stringItem s (some c) t)
    (ht : Reads stringBody t cs rest) : Reads stringBody s (c :: cs) rest := by
  have ⟨hr, h⟩ := h
  have ⟨hr', ht⟩ := ht
  refine ⟨Nat.lt_trans hr' hr, ?_⟩
  rw [stringBody, h]
  simp only [bind, Except.bind, ht]
  rfl

theorem StringText.spells (h : StringText cs t) : Spells stringBody t cs := by
  intro rest
  induction h
  case done => exact .stringBody_nil ⟨by simp, rfl⟩
  case next hc _ ih =>
    rw [List.append_assoc]
    exact .stringBody_cons (hc.spells _) ih

theorem Reads.skipString_done (h : Reads skipItem s false rest) : Reads skipString s () rest := by
  have ⟨hr, h⟩ := h
  refine ⟨hr, ?_⟩
  rw [skipString, h]
  rfl

theorem Reads.skipString_next (h : Reads skipItem s true t) (ht : Reads skipString t () rest) :
    Reads skipString s () rest := by
  have ⟨hr, h⟩ := h
  have ⟨hr', ht⟩ := ht
  refine ⟨Nat.lt_trans hr' hr, ?_⟩
  rw [skipString, h]
  simp only [bind, Except.bind, ht]
  rfl

theorem CodeText.skips (h : CodeText n ds) (rest : List Char) :
    Reads skipItem ('\\' :: 'u' :: (ds ++ rest)) true rest := by
  have ⟨hr, h⟩ := h.spells rest
  refine ⟨by simp at hr ⊢; omega, ?_⟩
  simp [skipItem, skipEscape, shortEscape?, h, bind, Except.bind]
  rfl

-- A pair of escapes is passed over one by one.
theorem CharText.skips (h : CharText c t) (hs : Reads skipString s () rest) :
    Reads skipString (t ++ s) () rest := by
  cases h
  case plain hq hb hc =>
    refine .skipString_next ⟨Nat.lt_succ_self _, ?_⟩ hs
    simp only [List.singleton_append, skipItem, if_neg hq, if_neg hb, hc]
    rfl
  case short he =>
    refine .skipString_next ⟨Nat.lt_succ_of_lt <| Nat.lt_succ_self _, ?_⟩ hs
    simp [skipItem, skipEscape, he, bind, Except.bind]
    rfl
  case code h => exact .skipString_next (h.skips s) hs
  case pair hl ht =>
    simp only [List.cons_append, List.append_assoc]
    exact .skipString_next (hl.skips _) <| .skipString_next (ht.skips s) hs

theorem StringText.skips (h : StringText cs t) : Spells skipString t () := by
  intro rest
  induction h
  case done => exact .skipString_done ⟨by simp, rfl⟩
  case next hc _ ih =>
    rw [List.append_assoc]
    exact hc.skips ih

end TabPruning.Json
