import TabPruning.Json.Printer
import TabPruning.Proofs.Json.Reading

namespace TabPruning.Json

-- Four hexadecimal digits.
structure CodeText (n : Nat) (ds : List Char) : Prop where
  four  : ds.length = 4
  value : hexValue? ds = some n

-- The pair of surrogates that stands for a character beyond the first 65536.
def leadingHalf (c : Char) : Nat :=
  0xD800 + (c.toNat - 0x10000) / 0x400

def trailingHalf (c : Char) : Nat :=
  0xDC00 + (c.toNat - 0x10000) % 0x400

-- One character of a string: itself, by an escape of one letter, or by its code.
inductive CharText (c : Char) : List Char → Prop
  | plain : c ≠ '"' → c ≠ '\\' → isControl c = false → CharText c [c]
  | short : (shortEscape? e = some c) → CharText c ['\\', e]
  | code  : (CodeText c.toNat ds) → CharText c ('\\' :: 'u' :: ds)
  | pair  : 0x10000 ≤ c.toNat → (CodeText (leadingHalf c) ds) → (CodeText (trailingHalf c) ds') →
    CharText c ('\\' :: 'u' :: (ds ++ '\\' :: 'u' :: ds'))

-- A string behind its opening quote.
inductive StringText : List Char → List Char → Prop
  | done : StringText [] ['"']
  | next : (CharText c t) → (StringText cs more) → StringText (c :: cs) (t ++ more)

inductive WholeText : List Char → Prop
  | zero   : WholeText ['0']
  | digits : (d.isDigit) → d ≠ '0' → (ds.all Char.isDigit) → WholeText (d :: ds)

inductive FractionText : List Char → Prop
  | none   : FractionText []
  | digits : (d.isDigit) → (ds.all Char.isDigit) → FractionText ('.' :: d :: ds)

inductive ExponentText : List Char → Prop
  | none   : ExponentText []
  | digits : (isExponentMark e) → sign ∈ [[], ['+'], ['-']] → (d.isDigit) →
    (ds.all Char.isDigit) → ExponentText (e :: (sign ++ d :: ds))

inductive NumberText : List Char → Prop
  | parts : minus ∈ [[], ['-']] → (WholeText w) → (FractionText f) → (ExponentText e) →
    NumberText (minus ++ (w ++ (f ++ e)))

mutual

inductive ValueText : Json → List Char → Prop
  | null      : ValueText .null "null".toList
  | boolTrue  : ValueText (.bool true) "true".toList
  | boolFalse : ValueText (.bool false) "false".toList
  | number    : (NumberText s) → ValueText (.number s) s
  | string    : (StringText s t) → ValueText (.string s) ('"' :: t)
  | list      : (ElementsText true vs t) → ValueText (.list vs) ('[' :: t)
  | object    : (MembersText true ms t) → ValueText (.object ms) ('{' :: t)

-- What follows the opening bracket of a list, or one of its elements.
inductive ElementsText : Bool → List Json → List Char → Prop
  | done : (w.all isSpace) → ElementsText first [] (w ++ [']'])
  | next : (Separator first sep) → (ValueText v t) → (ElementsText false vs more) →
    ElementsText first (v :: vs) (sep ++ (t ++ more))

-- What follows the opening bracket of an object, or one of its members.
inductive MembersText : Bool → List (List Char × Json) → List Char → Prop
  | done : (w.all isSpace) → MembersText first [] (w ++ ['}'])
  | next : (Separator first sep) → (StringText k key) → (w.all isSpace) → (u.all isSpace) →
    (ValueText v t) → (MembersText false ms more) →
    MembersText first ((k, v) :: ms) (sep ++ '"' :: (key ++ (w ++ ':' :: (u ++ (t ++ more)))))

end

-- A whole text, with white space around its value.
inductive DocumentText (v : Json) : List Char → Prop
  | spaced : (w.all isSpace) → (ValueText v t) → (u.all isSpace) → DocumentText v (w ++ (t ++ u))

-- The character that a text of the value starts with.
inductive Starts : Json → Char → Prop
  | null      : Starts .null 'n'
  | boolTrue  : Starts (.bool true) 't'
  | boolFalse : Starts (.bool false) 'f'
  | minus     : Starts (.number s) '-'
  | digit     : (c.isDigit) → Starts (.number s) c
  | string    : Starts (.string s) '"'
  | list      : Starts (.list vs) '['
  | object    : Starts (.object ms) '{'

variable {c d : Char} {s t : List Char} {v : Json}

theorem ne_of_isDigit (h : c.isDigit) (hd : d.isDigit = false) : c ≠ d := by
  rintro rfl
  exact Bool.noConfusion <| h.symm.trans hd

theorem WholeText.starts (h : WholeText s) : ∃ c t, s = c :: t ∧ c.isDigit := by
  cases h
  case zero          => exact ⟨_, _, rfl, rfl⟩
  case digits hd _ _ => exact ⟨_, _, rfl, hd⟩

theorem NumberText.starts (h : NumberText s) : ∃ c t, s = c :: t ∧ Starts (.number s) c := by
  obtain ⟨hm, hw, _, _⟩ := h
  have ⟨c, t, ht, hc⟩ := hw.starts
  rw [ht]
  simp only [List.mem_cons, List.not_mem_nil, or_false] at hm
  obtain rfl | rfl := hm
  · exact ⟨_, _, rfl, .digit hc⟩
  · exact ⟨_, _, rfl, .minus⟩

theorem ValueText.starts (h : ValueText v t) : ∃ c s, t = c :: s ∧ Starts v c := by
  cases h
  case number h => exact h.starts
  all_goals exact ⟨_, _, rfl, by constructor⟩

theorem Starts.visible (h : Starts v c) : isSpace c = false ∧ c ≠ ']' := by
  cases h
  case digit h =>
    have := ne_of_isDigit h (d := ' ') rfl
    have := ne_of_isDigit h (d := '\n') rfl
    have := ne_of_isDigit h (d := '\t') rfl
    have := ne_of_isDigit h (d := '\r') rfl
    exact ⟨by simp [isSpace, *], ne_of_isDigit h rfl⟩
  all_goals decide

end TabPruning.Json
