import TabPruning.Marker

namespace TabPruning

open CaseShift

-- The one character beyond ASCII that is lowered to a character of ASCII alone, a `k`.
abbrev kelvinSign : Char :=
  '\u212A'

namespace CaseShift

def asciiCapitals : CaseShift :=
  ⟨0x41, 0x5A, 1, 32⟩

def kelvin : CaseShift :=
  ⟨0x212A, 0x212A, 1, -8383⟩

-- The range lies beyond ASCII, and so do the characters to which it is lowered.
def IsForeign (r : CaseShift) : Prop :=
  128 ≤ r.first ∧ 128 ≤ r.first + r.shift ∧
    (r.last + r.shift < 0xD800 ∨ (0xDFFF < r.first + r.shift ∧ r.last + r.shift < 0x110000))

instance (r : CaseShift) : Decidable r.IsForeign :=
  inferInstanceAs <| Decidable (_ ∧ _)

variable {r : CaseShift} {c : Char}

theorem covers_iff :
    r.covers c ↔ r.first ≤ c.toNat ∧ c.toNat ≤ r.last ∧ (c.toNat - r.first) % r.step = 0 := by
  simp [covers, and_assoc]

theorem toNat_apply (h : (c.toNat + r.shift).toNat.isValidChar) :
    (r.apply c).toNat = (c.toNat + r.shift).toNat := by
  rw [apply, Char.ofNat, dif_pos h]
  rfl

theorem IsForeign.le_toNat_apply (hr : r.IsForeign) (h : r.covers c) :
    128 ≤ (r.apply c).toNat := by
  have ⟨_, hi, hv⟩ := hr
  have ⟨hf, hl, _⟩ := covers_iff.mp h
  have hc : (c.toNat + r.shift).toNat.isValidChar := by
    simp only [Nat.isValidChar]
    omega
  rw [toNat_apply hc]
  omega

end CaseShift

variable {r : CaseShift} {c : Char} {before s t : List Char}

theorem mem_caseShifts :
    ∀ r ∈ caseShifts, r = asciiCapitals ∨ r = kelvin ∨ r.IsForeign := by
  decide +kernel

theorem toLower_eq (c : Char) :
    c.toLower = if asciiCapitals.covers c then asciiCapitals.apply c else c := by
  have hc : asciiCapitals.covers c ↔ c.val ≥ 'A'.val ∧ c.val ≤ 'Z'.val := by
    rw [covers_iff, ge_iff_le, UInt32.le_iff_toNat_le, UInt32.le_iff_toNat_le]
    simp [asciiCapitals, Nat.mod_one]
  by_cases h : c.val ≥ 'A'.val ∧ c.val ≤ 'Z'.val
  case pos =>
    have hz : c.toNat ≤ 0x5A := UInt32.le_iff_toNat_le.mp h.2
    have hl : c.toLower.toNat = (c.val + 32).toNat := congrArg Char.toNat <| dif_pos h
    have hs : (c.toNat + asciiCapitals.shift).toNat = c.toNat + 32 := rfl
    rw [if_pos (hc.mpr h), ← Char.toNat_inj, toNat_apply <| hs ▸ .inl (by omega), hs, hl,
      UInt32.toNat_add]
    exact Nat.mod_eq_of_lt <| Nat.lt_of_le_of_lt (Nat.add_le_add_right hz 32) <| by decide
  case neg => exact (dif_neg h).trans (if_neg <| mt hc.mp h).symm

-- Of all ranges only that of the capital letters touches ASCII.
theorem eq_asciiCapitals (hr : r ∈ caseShifts) (h : r.covers c) (hc : c.toNat < 128) :
    r = asciiCapitals := by
  have hf := (covers_iff.mp h).1
  obtain rfl | rfl | hr := mem_caseShifts r hr
  · rfl
  · have hf : 0x212A ≤ c.toNat := hf
    omega
  · exact absurd (Nat.le_trans hr.1 hf) <| Nat.not_le.mpr hc

theorem not_covers_asciiCapitals (h : 128 ≤ c.toNat) : ¬asciiCapitals.covers c := by
  intro hc
  have hl : c.toNat ≤ 0x5A := (covers_iff.mp hc).2.1
  omega

theorem toLower_of_not_ascii (h : 128 ≤ c.toNat) : c.toLower = c := by
  rw [toLower_eq, if_neg <| not_covers_asciiCapitals h]

theorem lowerChar_of_ascii (h : c.toNat < 128) : lowerChar c = [c.toLower] := by
  have hi : c ≠ 'İ' := by
    rintro rfl
    revert h
    decide
  rw [lowerChar, if_neg hi, toLower_eq]
  cases hr : caseShifts.find? (·.covers c)
  case none =>
    have hc : ¬asciiCapitals.covers c := List.find?_eq_none.mp hr _ <| .head _
    rw [if_neg hc]
  case some r =>
    have hc := List.find?_some hr
    obtain rfl := eq_asciiCapitals (List.mem_of_find?_eq_some hr) hc h
    rw [if_pos hc]

theorem lowerChar_kelvinSign : lowerChar kelvinSign = ['k'] := by
  decide +kernel

theorem exists_mem_lowerChar (h : 128 ≤ c.toNat) (hk : c ≠ kelvinSign) :
    ∃ d ∈ lowerChar c, 128 ≤ d.toNat := by
  rw [lowerChar]
  split
  -- The dotted capital I is lowered to an `i`, but with a dot behind it that is not from ASCII.
  case isTrue => exact ⟨'\u0307', by decide⟩
  case isFalse =>
    split
    case h_1 r hr =>
      have hc := List.find?_some hr
      refine ⟨r.apply c, List.mem_singleton.mpr rfl, ?_⟩
      obtain rfl | rfl | hr := mem_caseShifts r <| List.mem_of_find?_eq_some hr
      · exact absurd hc <| not_covers_asciiCapitals h
      · have ⟨hf, hl, _⟩ := covers_iff.mp hc
        have he : c.toNat = kelvinSign.toNat := Nat.le_antisymm hl hf
        exact absurd (Char.toNat_inj.mp he) hk
      · exact hr.le_toNat_apply hc
    case h_2 => exact ⟨c, List.mem_singleton.mpr rfl, h⟩

theorem le_toNat_lowerSigma (before after : List Char) :
    128 ≤ (lowerSigma before after).toNat := by
  rw [lowerSigma]
  split <;> decide

-- The letters A to Z are lowered, and the Kelvin sign is.
def lowerToAscii (c : Char) : Char :=
  if c = kelvinSign then 'k' else c.toLower

theorem lowerChar_eq_lowerToAscii (h : c.toNat < 128 ∨ c = kelvinSign) :
    lowerChar c = [lowerToAscii c] := by
  rw [lowerToAscii]
  split
  case isTrue hk  => exact hk ▸ lowerChar_kelvinSign
  case isFalse hk => exact lowerChar_of_ascii <| h.resolve_right hk

theorem lowercase.go_eq_iff (ht : ∀ c ∈ t, c.toNat < 128) :
    lowercase.go before s = t ↔ s.map lowerToAscii = t := by
  induction s generalizing before t
  case nil => rfl
  case cons c s ih =>
    rw [lowercase.go, List.map_cons]
    by_cases hc : c.toNat < 128 ∨ c = kelvinSign
    case pos =>
      have hs : c ≠ 'Σ' := by
        rintro rfl
        revert hc
        decide
      rw [if_neg hs, lowerChar_eq_lowerToAscii hc, List.singleton_append]
      cases t
      case nil      => simp
      case cons d t => rw [List.cons_eq_cons, List.cons_eq_cons, ih (List.forall_mem_cons.mp ht).2]
    -- Neither mapping makes such a character one of ASCII.
    case neg =>
      have ⟨h, hk⟩ := not_or.mp hc
      have h := Nat.le_of_not_lt h
      constructor
      case mp =>
        rintro rfl
        split at ht
        · exact absurd (ht _ <| .head _) <| Nat.not_lt.mpr <| le_toNat_lowerSigma ..
        · have ⟨d, hd, hl⟩ := exists_mem_lowerChar h hk
          exact absurd (ht d <| List.mem_append_left _ hd) <| Nat.not_lt.mpr hl
      case mpr =>
        rintro rfl
        have hd := ht (lowerToAscii c) <| .head _
        rw [lowerToAscii, if_neg hk, toLower_of_not_ascii h] at hd
        exact absurd hd <| Nat.not_lt.mpr h

theorem lowercase_eq_iff (ht : ∀ c ∈ t, c.toNat < 128) :
    lowercase s = t ↔ s.map lowerToAscii = t :=
  lowercase.go_eq_iff ht

-- Without a `k`, no Kelvin sign has been lowered to one.
theorem map_lowerToAscii_eq_iff (ht : ∀ c ∈ t, c.toNat < 128) (hk : 'k' ∉ t) :
    s.map lowerToAscii = t ↔ s.map Char.toLower = t := by
  have hm (h : kelvinSign ∉ s) : s.map lowerToAscii = s.map Char.toLower :=
    List.map_congr_left fun c hc => if_neg <| ne_of_mem_of_not_mem hc h
  constructor
  case mp =>
    rintro rfl
    exact (hm fun h => hk <| List.mem_map.mpr ⟨_, h, by decide⟩).symm
  case mpr =>
    rintro rfl
    refine hm fun h => ?_
    exact absurd (ht _ <| List.mem_map.mpr ⟨_, h, rfl⟩) <| by decide

theorem toList_toLower (s : String) : s.toLower.toList = s.toList.map Char.toLower :=
  String.toList_map

namespace Marker

variable {m : Marker} {s : String}

theorem ofTabName?_eq_some_iff : ofTabName? s = some m ↔ s = m.tabName := by
  constructor
  case mp =>
    intro h
    have hm := List.find?_some h
    exact (of_decide_eq_true hm).symm
  case mpr =>
    rintro rfl
    exact m.ofTabName?_tabName

theorem tabName_ascii (m : Marker) : ∀ c ∈ m.tabName.toList, c.toNat < 128 := by
  have h : m.tabName.toList.all (·.toNat < 128) := by cases m <;> decide
  exact fun c hc => of_decide_eq_true <| List.all_eq_true.mp h c hc

theorem k_not_mem_tabName (m : Marker) : 'k' ∉ m.tabName.toList := by
  cases m <;> decide

theorem ofText?_eq_some_iff : ofText? s = some m ↔ s.toLower = m.tabName := by
  rw [ofText?, ofTabName?_eq_some_iff, ← String.toList_inj, String.toList_ofList,
    lowercase_eq_iff m.tabName_ascii,
    map_lowerToAscii_eq_iff m.tabName_ascii m.k_not_mem_tabName, ← String.toList_inj,
    toList_toLower]

theorem ascii_of_ofText? (h : ofText? s = some m) : ∀ c ∈ s.toList, c.toNat < 128 := by
  refine fun c hc => Nat.lt_of_not_le fun hn => ?_
  have hl : c.toLower ∈ m.tabName.toList := by
    rw [← ofText?_eq_some_iff.mp h, toList_toLower]
    exact List.mem_map_of_mem hc
  rw [toLower_of_not_ascii hn] at hl
  exact Nat.not_lt.mpr hn <| m.tabName_ascii c hl

-- A tab name is read in any mixture of capital and small letters, and no text with a character
-- beyond ASCII is one, whatever that character is lowered to.
theorem reads_case_variants (s : String) :
    (∀ m, ofText? s = some m ↔ s.length = m.tabName.length ∧ s.toLower = m.tabName) ∧
    ((∃ c ∈ s.toList, 128 ≤ c.toNat) → ofText? s = none) := by
  refine ⟨fun m => ?_, fun ⟨c, hc, hn⟩ => ?_⟩
  · rw [ofText?_eq_some_iff, iff_and_self]
    intro h
    rw [← h, ← String.length_toList, ← String.length_toList, toList_toLower, List.length_map]
  · refine Option.eq_none_iff_forall_ne_some.mpr fun m h => ?_
    exact Nat.not_lt.mpr hn <| ascii_of_ofText? h c hc

-- The capital letter is lowered to an `i` and a dot to be put above it.
theorem reads_case_variants_and_no_dotted_capital :
    (∃ c ∈ "automatİon".toList, 128 ≤ c.toNat) ∧ ofText? "automatİon" = none := by
  have h : ∃ c ∈ "automatİon".toList, 128 ≤ c.toNat := ⟨'İ', by decide⟩
  exact ⟨h, (reads_case_variants _).2 h⟩

end Marker

end TabPruning
