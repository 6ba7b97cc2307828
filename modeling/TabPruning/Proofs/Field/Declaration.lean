import TabPruning.Config
import TabPruning.Field

namespace TabPruning

namespace Line

-- What the line looks like whose declaration of the name is followed by anything.
def IsDeclaration (name : List Char) (l : Line) : Prop :=
  ∃ before after rest, l = before ++ name ++ after ++ ':' :: rest ∧
    before.all isBlank ∧ after.all isBlank

-- A letter, `_` or `$`, followed by more of these and digits.
def isIdentifier : List Char → Bool
  | []      => false
  | c :: cs => isNameStart c && cs.all isNamePart

variable {l : Line} {name name' cs : List Char} {c : Char}

theorem isBlank_colon : isBlank ':' = false := by
  decide

theorem trimStart_append (h : cs.all isBlank) (rest : List Char) :
    trimStart (cs ++ rest) = trimStart rest :=
  List.dropWhile_append_of_pos <| List.all_eq_true.mp h

theorem trimStart_of_not_blank (h : isBlank c = false) : trimStart (c :: cs) = c :: cs := by
  simp [trimStart, h]

theorem exists_eq_append_trimStart (cs : List Char) :
    ∃ before : List Char, cs = before ++ trimStart cs ∧ before.all isBlank :=
  ⟨cs.takeWhile isBlank, List.takeWhile_append_dropWhile.symm, List.all_takeWhile⟩

theorem head?_trimStart_eq_some_iff (hc : isBlank c = false) :
    (trimStart cs).head? = some c ↔
      ∃ before rest, cs = before ++ c :: rest ∧ before.all isBlank where
  mp h := by
    have ⟨before, hcs, hb⟩ := exists_eq_append_trimStart cs
    have ⟨rest, hr⟩ := List.head?_eq_some_iff.mp h
    exact ⟨before, rest, hr ▸ hcs, hb⟩
  mpr := by
    rintro ⟨before, rest, rfl, hb⟩
    rw [trimStart_append hb, trimStart_of_not_blank hc, List.head?_cons]

theorem opensWith_iff : l.opensWith name ↔
    ∃ after rest, l = name ++ after ++ ':' :: rest ∧ after.all isBlank := by
  rw [opensWith, afterPrefix?]
  by_cases h : name <+: l
  case neg =>
    rw [if_neg h]
    refine ⟨nofun, fun ⟨after, rest, hl, _⟩ => absurd ⟨after ++ ':' :: rest, ?_⟩ h⟩
    rw [hl, List.append_assoc]
  case pos =>
    obtain ⟨cs, rfl⟩ := h
    simp [head?_trimStart_eq_some_iff isBlank_colon]

theorem declares_iff : l.declares name ↔ l.IsDeclaration name := by
  induction l
  case nil => simp [declares, opensWith_iff, IsDeclaration]
  case cons c cs ih =>
    rw [declares, Bool.or_eq_true, Bool.and_eq_true, ih, opensWith_iff]
    constructor
    case mp =>
      rintro (⟨after, rest, hl, ha⟩ | ⟨hc, before, after, rest, hl, hb, ha⟩)
      · exact ⟨[], after, rest, hl, rfl, ha⟩
      · exact ⟨c :: before, after, rest, by simp [hl], by simp [hc, hb], ha⟩
    case mpr =>
      rintro ⟨_ | ⟨c', before⟩, after, rest, hl, hb, ha⟩
      case nil  => exact .inl ⟨after, rest, hl, ha⟩
      case cons =>
        cases hl
        rw [List.all_cons, Bool.and_eq_true] at hb
        exact .inr ⟨hb.1, before, after, rest, rfl, hb.2, ha⟩

instance (name : List Char) (l : Line) : Decidable (l.IsDeclaration name) :=
  decidable_of_iff _ declares_iff

theorem declares_eq_decide (name : List Char) (l : Line) :
    l.declares name = decide (l.IsDeclaration name) := by
  rw [Bool.eq_iff_iff, declares_iff, decide_eq_true_iff]

-- Names as validated settings have them.
structure IsBareName (name : List Char) : Prop where
  ne_nil : name ≠ []
  bare   : ∀ c ∈ name, isBlank c = false ∧ c ≠ ':'

namespace IsDeclaration

theorem trimStart_eq (hb : IsBareName name) (h : l.IsDeclaration name) :
    ∃ after rest, trimStart l = name ++ after ++ ':' :: rest ∧ after.all isBlank := by
  obtain ⟨before, after, rest, rfl, hbefore, hafter⟩ := h
  refine ⟨after, rest, ?_, hafter⟩
  obtain ⟨c, cs, rfl⟩ := List.exists_cons_of_ne_nil hb.ne_nil
  rw [List.append_assoc, List.append_assoc, trimStart_append hbefore, List.cons_append,
    trimStart_of_not_blank (hb.bare c <| .head _).1]
  simp

-- A bare name ends where white space or a colon follows.
theorem takeWhile_eq (hb : IsBareName name) (h : l.IsDeclaration name) :
    (trimStart l).takeWhile (fun c => !isBlank c && c != ':') = name := by
  have ⟨after, rest, hl, ha⟩ := h.trimStart_eq hb
  rw [hl, List.append_assoc, List.takeWhile_append_of_pos <| by simpa using hb.bare]
  cases after
  case nil    => simp
  case cons c cs =>
    rw [List.all_cons, Bool.and_eq_true] at ha
    simp [ha.1]

theorem name_unique (hb : IsBareName name) (hb' : IsBareName name')
    (h : l.IsDeclaration name) (h' : l.IsDeclaration name') : name = name' :=
  (h.takeWhile_eq hb).symm.trans <| h'.takeWhile_eq hb'

theorem startsWithCloser_eq (hb : IsBareName name) (h : l.IsDeclaration name) :
    l.startsWithCloser = startsWithCloser name := by
  have ⟨after, rest, hl, _⟩ := h.trimStart_eq hb
  obtain ⟨c, cs, rfl⟩ := List.exists_cons_of_ne_nil hb.ne_nil
  rw [startsWithCloser, hl, startsWithCloser, trimStart_of_not_blank (hb.bare c <| .head _).1]
  rfl

end IsDeclaration

theorem not_isNamePart_of_isBlank (h : isBlank c) : isNamePart c = false := by
  delta isNamePart isNameStart Char.isAlpha Char.isUpper Char.isLower Char.isDigit
  simp [isBlank, Char.ext_iff, UInt32.le_iff_toNat_le, UInt32.toNat_inj.symm] at h ⊢
  omega

theorem dropWhile_isNamePart (h : cs.all isBlank) (rest : List Char) :
    (cs ++ ':' :: rest).dropWhile isNamePart = cs ++ ':' :: rest := by
  cases cs
  case nil         => rfl
  case cons c cs =>
    rw [List.all_cons, Bool.and_eq_true] at h
    simp [not_isNamePart_of_isBlank h.1]

-- A declaration shows that it is one, whatever its name, just when the name is an identifier.
theorem IsDeclaration.declaresSome_eq (hb : IsBareName name) (h : l.IsDeclaration name) :
    l.declaresSome = isIdentifier name := by
  have ⟨after, rest, hl, ha⟩ := h.trimStart_eq hb
  obtain ⟨c, cs, rfl⟩ := List.exists_cons_of_ne_nil hb.ne_nil
  rw [List.append_assoc, List.cons_append] at hl
  simp only [declaresSome, hl, isIdentifier]
  congr 1
  cases hp : cs.find? (!isNamePart ·)
  case none =>
    have hp : ∀ c ∈ cs, isNamePart c := by simpa using hp
    rw [List.dropWhile_append_of_pos hp, dropWhile_isNamePart ha, trimStart_append ha,
      trimStart_of_not_blank isBlank_colon, List.all_eq_true.mpr hp]
    simp
  case some c' =>
    -- The first character that is no part of an identifier is neither white space nor a colon.
    obtain ⟨hc', part, cs', rfl, hpart⟩ := List.find?_eq_some_iff_append.mp hp
    have ⟨hblank, hcolon⟩ := hb.bare c' <| by simp
    have hc' : isNamePart c' = false := by simpa using hc'
    rw [List.append_assoc, List.dropWhile_append_of_pos <| by simpa using hpart, List.cons_append,
      List.dropWhile_cons_of_neg <| by simp [hc'], trimStart_of_not_blank hblank]
    simp [hc', hcolon]

theorem isBareName_of_isIdentifier (h : isIdentifier name) : IsBareName name := by
  obtain _ | ⟨c, cs⟩ := name
  · cases h
  rw [isIdentifier, Bool.and_eq_true, List.all_eq_true] at h
  have hp : ∀ d ∈ c :: cs, isNamePart d :=
    List.forall_mem_cons.mpr ⟨by simp [isNamePart, h.1], h.2⟩
  refine ⟨List.cons_ne_nil _ _, fun d hd => ⟨Bool.eq_false_iff.mpr fun hb => ?_, ?_⟩⟩
  · exact Bool.eq_false_iff.mp (not_isNamePart_of_isBlank hb) <| hp d hd
  · rintro rfl
    exact absurd (hp _ hd) <| by decide

theorem declaresSome_iff : l.declaresSome ↔ ∃ name, isIdentifier name ∧ l.IsDeclaration name := by
  constructor
  case mp =>
    intro h
    rw [declaresSome] at h
    obtain ⟨before, hl, hb⟩ := exists_eq_append_trimStart l
    cases ht : trimStart l
    case nil => simp [ht] at h
    case cons c cs =>
      simp only [ht, Bool.and_eq_true, decide_eq_true_eq] at h
      obtain ⟨after, rest, hr, ha⟩ := (head?_trimStart_eq_some_iff isBlank_colon).mp h.2
      refine ⟨c :: cs.takeWhile isNamePart, ?_, before, after, rest, ?_, hb, ha⟩
      · rw [isIdentifier, h.1, List.all_takeWhile, Bool.true_and]
      · conv => lhs; rw [hl, ht, ← List.takeWhile_append_dropWhile (p := isNamePart) (l := cs), hr]
        simp
  case mpr =>
    rintro ⟨name, hi, hd⟩
    rw [hd.declaresSome_eq <| isBareName_of_isIdentifier hi, hi]

-- Names that a declaration does not hide: no declaration of such a name can be a continuation.
def IsPlainName (name : List Char) : Prop :=
  isIdentifier name ∨ startsWithCloser name

instance (name : List Char) : Decidable (IsPlainName name) :=
  inferInstanceAs <| Decidable (_ ∨ _)

theorem IsDeclaration.isContinuation_iff (hb : IsBareName name) (h : l.IsDeclaration name) :
    l.isContinuation ↔ l.endsWithComma ∧ ¬IsPlainName name := by
  simp [isContinuation, h.declaresSome_eq hb, h.startsWithCloser_eq hb, IsPlainName, and_assoc]

end Line

end TabPruning
