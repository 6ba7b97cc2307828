import TabPruning.Proofs.Json.Strings

namespace TabPruning.Json

-- What passes over the front of `s` leaves `rest`.
def Skips (f : (s : List Char) → Except Stop (Tail s)) (s rest : List Char) : Prop :=
  ∃ h, f s = .ok ⟨rest, h⟩

-- What does not go on with a number that stands before it.
def EndsNumber (s : List Char) : Prop :=
  ∀ c ∈ s.head?, c.isDigit = false ∧ c ≠ '.' ∧ isExponentMark c = false

variable {c d : Char} {s t u w ws ds rest e f sep sign : List Char} {v : Json}
variable {stack : List Bracket} {b : Bracket} {first : Bool}

theorem isExponentMark_iff : isExponentMark c ↔ c = 'e' ∨ c = 'E' := by
  simp [isExponentMark]

theorem skipDigits_append (hd : ds.all Char.isDigit) (hs : ∀ c ∈ s.head?, c.isDigit = false) :
    (skipDigits (ds ++ s)).1 = s := by
  change (ds ++ s).dropWhile Char.isDigit = s
  rw [List.dropWhile_append_of_pos <| List.all_eq_true.mp hd]
  cases s
  case nil      => rfl
  case cons c s => exact List.dropWhile_cons_of_neg <| by simp [hs c rfl]

theorem exponentSign_append (hs : sign ∈ [[], ['+'], ['-']]) (hd : d.isDigit) :
    (exponentSign (sign ++ d :: s)).2 = d :: s := by
  simp only [List.mem_cons, List.not_mem_nil, or_false] at hs
  obtain rfl | rfl | rfl := hs
  · rw [List.nil_append, exponentSign]
    · exact fun _ h => ne_of_isDigit hd rfl (List.head_eq_of_cons_eq h)
    · exact fun _ h => ne_of_isDigit hd rfl (List.head_eq_of_cons_eq h)
  · rfl
  · rfl

namespace Skips

theorem exponent (he : (exponentSign s).2 = d :: t) (hd : d.isDigit) :
    Skips skipExponent s (skipDigits t).1 := by
  have ht := (skipDigits t).2
  have hl : (exponentSign s).2.length ≤ s.length := by
    unfold exponentSign
    split <;> simp
  rw [he, List.length_cons] at hl
  refine ⟨by omega, ?_⟩
  unfold skipExponent
  split
  case h_1 h => cases he.symm.trans h
  case h_2 h =>
    cases he.symm.trans h
    rw [if_pos hd]

theorem mark (hc : isExponentMark c) (h : Skips skipExponent s rest) :
    Skips skipAfterDecimals (c :: s) rest := by
  have ⟨h', h⟩ := h
  refine ⟨Nat.le_succ_of_le h', ?_⟩
  simp only [skipAfterDecimals, if_pos hc, h]
  rfl

theorem noMark (hs : EndsNumber s) : Skips skipAfterDecimals s s := by
  refine ⟨Nat.le_refl _, ?_⟩
  cases s
  case nil      => rfl
  case cons c s => simp [skipAfterDecimals, (hs c rfl).2.2, Tail.all]

theorem point (hd : d.isDigit) (h : Skips skipAfterDecimals (skipDigits s).1 rest) :
    Skips skipAfterWhole ('.' :: d :: s) rest := by
  have ⟨h', h⟩ := h
  have := (skipDigits s).2
  refine ⟨by simp; omega, ?_⟩
  simp only [skipAfterWhole, if_pos hd, h]
  rfl

theorem noPoint (hs : ∀ c ∈ s.head?, c ≠ '.') (h : Skips skipAfterDecimals s rest) :
    Skips skipAfterWhole s rest := by
  have ⟨h', h⟩ := h
  refine ⟨h', ?_⟩
  unfold skipAfterWhole
  split
  case h_1 => exact absurd rfl (hs '.' rfl)
  case h_2 => exact h

theorem zero (hs : ∀ c ∈ s.head?, c.isDigit = false) (h : Skips skipAfterWhole s rest) :
    Reads skipNumber ('0' :: s) () rest := by
  have ⟨h', h⟩ := h
  have hd : s.head?.any Char.isDigit = false := by
    cases s
    case nil  => rfl
    case cons => exact hs _ rfl
  refine ⟨Nat.lt_succ_of_le h', ?_⟩
  simp [skipNumber, skipNumber.finish, hd, Tail.all, h, bind, Except.bind]
  rfl

theorem digits (hd : d.isDigit) (hz : d ≠ '0') (h : Skips skipAfterWhole (skipDigits s).1 rest) :
    Reads skipNumber (d :: s) () rest := by
  have ⟨h', h⟩ := h
  have := (skipDigits s).2
  refine ⟨by simp; omega, ?_⟩
  simp [skipNumber, skipNumber.finish, hz, hd, h, bind, Except.bind]
  rfl

end Skips

namespace ExponentText

theorem skips (h : ExponentText e) (hr : EndsNumber rest) :
    Skips skipAfterDecimals (e ++ rest) rest := by
  cases h
  case none => exact .noMark hr
  case digits ds he hs hd hds =>
    have h := Skips.exponent (exponentSign_append (s := ds ++ rest) hs hd) hd
    rw [skipDigits_append hds fun c hc => (hr c hc).1] at h
    simpa using h.mark he

-- What may follow the digits before an exponent.
theorem head_append (h : ExponentText e) (hr : EndsNumber rest) :
    ∀ c ∈ (e ++ rest).head?, c.isDigit = false ∧ c ≠ '.' := by
  cases h
  case none => exact fun c hc => ⟨(hr c hc).1, (hr c hc).2.1⟩
  case digits he _ _ _ =>
    intro c hc
    cases hc
    obtain rfl | rfl := isExponentMark_iff.mp he <;> decide

end ExponentText

namespace FractionText

theorem skips (h : FractionText f) (he : ExponentText e) (hr : EndsNumber rest) :
    Skips skipAfterWhole (f ++ (e ++ rest)) rest := by
  cases h
  case none => exact .noPoint (fun c hc => (he.head_append hr c hc).2) (he.skips hr)
  case digits hd hds =>
    refine .point hd ?_
    rw [List.append_eq, skipDigits_append hds fun c hc => (he.head_append hr c hc).1]
    exact he.skips hr

theorem head_append (h : FractionText f) (he : ExponentText e) (hr : EndsNumber rest) :
    ∀ c ∈ (f ++ (e ++ rest)).head?, c.isDigit = false := by
  cases h
  case none   => exact fun c hc => (he.head_append hr c hc).1
  case digits =>
    intro c hc
    cases hc
    rfl

end FractionText

theorem WholeText.skips (h : WholeText w) (hf : FractionText f) (he : ExponentText e)
    (hr : EndsNumber rest) : Reads skipNumber (w ++ (f ++ (e ++ rest))) () rest := by
  have hh := hf.head_append he hr
  cases h
  case zero => exact Skips.zero hh (hf.skips he hr)
  case digits hd hz hds =>
    refine Skips.digits hd hz ?_
    rw [List.append_eq, skipDigits_append hds hh]
    exact hf.skips he hr

theorem NumberText.skims (h : NumberText s) (hr : EndsNumber rest) :
    Reads skimHead (s ++ rest) none rest := by
  obtain ⟨hm, hw, hf, he⟩ := h
  simp only [List.append_assoc]
  have hn := hw.skips hf he hr
  simp only [List.mem_cons, List.not_mem_nil, or_false] at hm
  obtain rfl | rfl := hm
  · have ⟨c, t, ht, hc⟩ := hw.starts
    rw [ht, List.cons_append] at hn
    rw [ht, List.nil_append, List.cons_append]
    have ⟨h', hn⟩ := hn
    refine ⟨h', ?_⟩
    simp [skimHead, hn, hc, ne_of_isDigit hc (d := 'n') rfl, ne_of_isDigit hc (d := 't') rfl,
      ne_of_isDigit hc (d := 'f') rfl, ne_of_isDigit hc (d := '-') rfl, bind, Except.bind]
    rfl
  · have ⟨h', hn⟩ := hn
    refine ⟨Nat.lt_succ_of_lt h', ?_⟩
    simp [skimHead, hn, bind, Except.bind]
    rfl

theorem StringText.skims (h : StringText ds t) (rest : List Char) :
    Reads skimHead ('"' :: (t ++ rest)) none rest := by
  have ⟨h', h⟩ := h.skips rest
  refine ⟨Nat.lt_succ_of_lt h', ?_⟩
  simp [skimHead, h, bind, Except.bind]
  rfl

-- What is expected behind the opening of a bracket, or behind one of its entries.
def entryPhase (first : Bool) : Phase :=
  if first then .opened else .closed

namespace Skips

theorem stop : Skips (skim .closed []) s s :=
  ⟨Nat.le_refl _, by rw [skim]; rfl⟩

theorem value {head : Option Bracket} (hw : w.all isSpace) (hc : isSpace c = false)
    (hh : Reads skimHead (c :: s) head t)
    (h : Skips (skim (if head.isSome then .opened else .closed) (head.toList ++ stack)) t rest) :
    Skips (skim .value stack) (w ++ c :: s) rest := by
  have ⟨_, hs⟩ := skipSpace_append (s := s) hw hc
  have ⟨_, hh⟩ := hh
  have ⟨_, h⟩ := h
  refine ⟨by omega, ?_⟩
  rw [skim, hs]
  simp [hh, h, bind, Except.bind]
  rfl

theorem openedEnd (hw : w.all isSpace) (h : Skips (skim .closed stack) s rest) :
    Skips (skim .opened (b :: stack)) (w ++ b.closer :: s) rest := by
  have ⟨_, hs⟩ := skipSpace_append (s := s) hw (c := b.closer) (by cases b <;> rfl)
  have ⟨_, h⟩ := h
  refine ⟨by simp; omega, ?_⟩
  rw [skim, hs]
  simp [h, bind, Except.bind]
  rfl

theorem closedEnd (hw : w.all isSpace) (h : Skips (skim .closed stack) s rest) :
    Skips (skim .closed (b :: stack)) (w ++ b.closer :: s) rest := by
  have ⟨_, hs⟩ := skipSpace_append (s := s) hw (c := b.closer) (by cases b <;> rfl)
  have ⟨_, h⟩ := h
  have hc : b.closer ≠ ',' := by cases b <;> decide
  refine ⟨by simp; omega, ?_⟩
  rw [skim, hs]
  simp [h, hc, bind, Except.bind]
  rfl

theorem entryEnd (first : Bool) (hw : w.all isSpace) (h : Skips (skim .closed stack) s rest) :
    Skips (skim (entryPhase first) (b :: stack)) (w ++ b.closer :: s) rest := by
  cases first
  case true  => exact openedEnd hw h
  case false => exact closedEnd hw h

theorem openedEntry (hw : w.all isSpace) (hc : isSpace c = false) (hb : c ≠ b.closer)
    (he : Skips (skimEntry b) (c :: s) t) (h : Skips (skim .value (b :: stack)) t rest) :
    Skips (skim .opened (b :: stack)) (w ++ c :: s) rest := by
  have ⟨_, hs⟩ := skipSpace_append (s := s) hw hc
  have ⟨_, he⟩ := he
  have ⟨_, h⟩ := h
  refine ⟨by omega, ?_⟩
  rw [skim, hs]
  simp [he, h, hb, bind, Except.bind]
  rfl

theorem closedEntry (hw : w.all isSpace) (he : Skips (skimEntry b) s t)
    (h : Skips (skim .value (b :: stack)) t rest) :
    Skips (skim .closed (b :: stack)) (w ++ ',' :: s) rest := by
  have ⟨_, hs⟩ := skipSpace_append (s := s) hw (c := ',') rfl
  have ⟨_, he⟩ := he
  have ⟨_, h⟩ := h
  refine ⟨by simp; omega, ?_⟩
  rw [skim, hs]
  simp [he, h, bind, Except.bind]
  rfl

theorem listEntry : Skips (skimEntry .list) s s :=
  ⟨Nat.le_refl _, rfl⟩

theorem key (hk : StringText ds t) (hw : w.all isSpace) :
    Reads skimKey ('"' :: (t ++ (w ++ ':' :: s))) () s := by
  have ⟨_, hk⟩ := hk.skips (w ++ ':' :: s)
  have ⟨_, hc⟩ := expectColon_append (s := s) hw
  refine ⟨by simp; omega, ?_⟩
  simp [skimKey, hk, hc, bind, Except.bind]
  rfl

theorem objectEntry (hw : w.all isSpace) (hk : StringText ds t) (hw' : ws.all isSpace) :
    Skips (skimEntry .object) (w ++ '"' :: (t ++ (ws ++ ':' :: s))) s := by
  have ⟨_, hs⟩ := skipSpace_append (s := t ++ (ws ++ ':' :: s)) hw (c := '"') rfl
  have ⟨_, hk⟩ : Reads skimKey (skipSpace (w ++ '"' :: (t ++ (ws ++ ':' :: s)))).1 () s := by
    rw [hs]
    exact key hk hw'
  refine ⟨by simp; omega, ?_⟩
  simp only [skimEntry, hk]
  rfl

end Skips

theorem endsNumber_append (hw : w.all isSpace) (hc : EndsNumber s) : EndsNumber (w ++ s) := by
  cases w
  case nil => exact hc
  case cons d w =>
    intro c hc
    cases hc
    simp only [List.all_cons, Bool.and_eq_true, isSpace, Bool.or_eq_true, decide_eq_true_eq] at hw
    obtain ⟨((rfl | rfl) | rfl) | rfl, _⟩ := hw <;> decide

theorem Separator.endsNumber (h : Separator false sep) : EndsNumber (sep ++ s) := by
  cases h
  case later w w' hw hw' =>
    rw [List.append_assoc]
    exact endsNumber_append hw fun c hc => by cases hc; decide

theorem ElementsText.endsNumber {vs : List Json} (h : ElementsText false vs t)
    (rest : List Char) :
    EndsNumber (t ++ rest) := by
  cases h
  case done hw =>
    rw [List.append_assoc]
    exact endsNumber_append hw fun c hc => by cases hc; decide
  case next hs =>
    rw [List.append_assoc]
    exact hs.endsNumber

theorem MembersText.endsNumber {ms : List (List Char × Json)} (h : MembersText false ms t)
    (rest : List Char) :
    EndsNumber (t ++ rest) := by
  cases h
  case done hw =>
    rw [List.append_assoc]
    exact endsNumber_append hw fun c hc => by cases hc; decide
  case next hs =>
    rw [List.append_assoc]
    exact hs.endsNumber

theorem skimHead_null (s : List Char) : Reads skimHead ("null".toList ++ s) none s :=
  ⟨by simp; omega, rfl⟩

theorem skimHead_true (s : List Char) : Reads skimHead ("true".toList ++ s) none s :=
  ⟨by simp; omega, rfl⟩

theorem skimHead_false (s : List Char) : Reads skimHead ("false".toList ++ s) none s :=
  ⟨by simp; omega, rfl⟩

theorem skimHead_list (s : List Char) : Reads skimHead ('[' :: s) (some .list) s :=
  ⟨Nat.lt_succ_self _, rfl⟩

theorem skimHead_object (s : List Char) : Reads skimHead ('{' :: s) (some .object) s :=
  ⟨Nat.lt_succ_self _, rfl⟩

mutual

theorem ValueText.skips {v : Json} {t w rest u : List Char} {stack : List Bracket}
    (h : ValueText v t) (hw : w.all isSpace) (hr : EndsNumber rest)
    (hs : Skips (skim .closed stack) rest u) : Skips (skim .value stack) (w ++ (t ++ rest)) u := by
  cases h
  case null      => exact .value hw rfl (skimHead_null rest) hs
  case boolTrue  => exact .value hw rfl (skimHead_true rest) hs
  case boolFalse => exact .value hw rfl (skimHead_false rest) hs
  case number h =>
    have ⟨c, t', ht, hc⟩ := h.starts
    have hh := h.skims hr
    rw [ht] at hh ⊢
    exact .value hw hc.visible.1 hh hs
  case string h => exact .value hw rfl (h.skims rest) hs
  case list h   => exact .value hw rfl (skimHead_list _) (ElementsText.skips h hs)
  case object h => exact .value hw rfl (skimHead_object _) (MembersText.skips h hs)

theorem ElementsText.skips {vs : List Json} {first : Bool} {t rest u : List Char}
    {stack : List Bracket} (h : ElementsText first vs t)
    (hs : Skips (skim .closed stack) rest u) :
    Skips (skim (entryPhase first) (.list :: stack)) (t ++ rest) u := by
  cases h
  case done hw =>
    rw [List.append_assoc]
    exact .entryEnd first hw hs
  case next hv hvs hsep =>
    have ht := ElementsText.skips hvs hs
    have hr := hvs.endsNumber rest
    simp only [List.append_assoc]
    cases hsep
    case first hw =>
      have ⟨c, t', ht', hc⟩ := hv.starts
      have hv := ValueText.skips hv (w := []) rfl hr ht
      rw [ht'] at hv ⊢
      exact .openedEntry hw hc.visible.1 hc.visible.2 .listEntry hv
    case later hw hw' =>
      rw [List.append_assoc]
      exact .closedEntry hw .listEntry (ValueText.skips hv hw' hr ht)

theorem MembersText.skips {ms : List (List Char × Json)} {first : Bool} {t rest u : List Char}
    {stack : List Bracket} (h : MembersText first ms t)
    (hs : Skips (skim .closed stack) rest u) :
    Skips (skim (entryPhase first) (.object :: stack)) (t ++ rest) u := by
  cases h
  case done hw =>
    rw [List.append_assoc]
    exact .entryEnd first hw hs
  case next hk hw hw' hv hms hsep =>
    have hv := ValueText.skips hv hw' (hms.endsNumber rest) (MembersText.skips hms hs)
    simp only [List.append_assoc, List.cons_append]
    cases hsep
    case first hsep =>
      exact .openedEntry hsep rfl (by decide) (.objectEntry (w := []) rfl hk hw) hv
    case later hsep hsep' =>
      rw [List.append_assoc]
      exact .closedEntry hsep (.objectEntry hsep' hk hw) hv

end

-- Whatever is nested in a value, what follows it is left.
theorem ValueText.skips_skimValue (h : ValueText v t) (hw : w.all isSpace)
    (hr : EndsNumber rest) : Skips skimValue (w ++ (t ++ rest)) rest :=
  ValueText.skips h hw hr .stop

end TabPruning.Json
