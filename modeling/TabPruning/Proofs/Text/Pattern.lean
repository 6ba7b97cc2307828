import Mathlib.Data.List.Basic
import TabPruning.Text.Unicode

namespace TabPruning

-- What a character of a text is compared with.
inductive Symbol
  | char (c : Char)
  | blank
  deriving DecidableEq, Repr

def Symbol.accepts : Symbol → Char → Bool
  | char c => (· = c)
  | blank  => isBlank

inductive PatternItem
  -- No character, and only at the start of the text.
  | start
  | one (s : Symbol)
  -- Any number of characters.
  | many (s : Symbol)
  deriving DecidableEq, Repr

abbrev Pattern := List PatternItem

namespace Pattern

def literal (cs : List Char) : Pattern :=
  cs.map fun c => .one <| .char c

-- The pattern matches at the front of a text that stands behind another one.
def MatchesAt : Pattern → (before text : List Char) → Prop
  | [], _, _                   => True
  | .start :: p, before, text  => before = [] ∧ MatchesAt p before text
  | .one s :: p, before, text  =>
    ∃ c rest, text = c :: rest ∧ s.accepts c ∧ MatchesAt p (before ++ [c]) rest
  | .many s :: p, before, text =>
    ∃ cs rest, text = cs ++ rest ∧ cs.all s.accepts ∧ MatchesAt p (before ++ cs) rest

-- The pattern matches somewhere in the text.
def IsFoundIn (p : Pattern) (text : List Char) : Prop :=
  ∃ before rest, text = before ++ rest ∧ p.MatchesAt before rest

variable {p : Pattern} {s : Symbol} {before text cs : List Char}

theorem matchesAt_literal_append_iff : (literal cs ++ p).MatchesAt before text ↔
    ∃ rest, text = cs ++ rest ∧ p.MatchesAt (before ++ cs) rest := by
  induction cs generalizing before text
  case nil => simp [literal]
  case cons c cs ih =>
    have hc : literal (c :: cs) ++ p = .one (.char c) :: (literal cs ++ p) := rfl
    simp only [hc, MatchesAt, ih, Symbol.accepts, decide_eq_true_eq, List.append_assoc,
      List.singleton_append]
    constructor
    case mp =>
      rintro ⟨_, _, rfl, rfl, rest, rfl, h⟩
      exact ⟨rest, rfl, h⟩
    case mpr =>
      rintro ⟨rest, rfl, h⟩
      exact ⟨c, _, rfl, rfl, rest, rfl, h⟩

theorem exists_split_iff {P : List Char → List Char → Prop} :
    (∃ k < text.length + 1, P (text.take k) (text.drop k)) ↔
      ∃ cs rest, text = cs ++ rest ∧ P cs rest where
  mp  := fun ⟨k, _, h⟩ => ⟨_, _, (text.take_append_drop k).symm, h⟩
  mpr := by
    rintro ⟨cs, rest, rfl, h⟩
    have hk : cs.length < (cs ++ rest).length + 1 := by
      rw [List.length_append]
      omega
    refine ⟨cs.length, hk, ?_⟩
    rwa [List.take_left, List.drop_left]

instance decidableMatchesAt :
    (p : Pattern) → (before text : List Char) → Decidable (p.MatchesAt before text)
  | [], _, _                       => isTrue trivial
  | .start :: p, before, text      =>
    have := decidableMatchesAt p before text
    inferInstanceAs <| Decidable (_ ∧ _)
  | .one _ :: _, _, []             => isFalse nofun
  | .one s :: p, before, c :: text =>
    have := decidableMatchesAt p (before ++ [c]) text
    decidable_of_iff (s.accepts c ∧ MatchesAt p (before ++ [c]) text) <| by simp [MatchesAt]
  | .many _ :: p, before, text     =>
    have := fun k => decidableMatchesAt p (before ++ text.take k) (text.drop k)
    decidable_of_iff _ exists_split_iff

instance (p : Pattern) (text : List Char) : Decidable (p.IsFoundIn text) :=
  decidable_of_iff _ exists_split_iff

-- What a text that spells a pattern consists of.
inductive Token
  | start
  | star
  | symbol (s : Symbol)
  deriving DecidableEq, Repr

-- Characters that may stand for something else than themselves.
def isMeta (c : Char) : Bool :=
  c ∈ ['\\', '.', '+', '*', '?', '(', ')', '|', '[', ']', '{', '}', '^', '$', '#', '&', '-', '~']

def plainToken? (c : Char) : Option Token :=
  if c = '^' then some .start
  else if c = '*' then some .star
  else if isMeta c then none
  else some (.symbol (.char c))

def escapedToken? (c : Char) : Option Token :=
  if c = 's' then some (.symbol .blank)
  else if isMeta c then some (.symbol (.char c))
  else none

def tokens? : List Char → Option (List Token)
  | []              => some []
  | '\\' :: c :: cs => (escapedToken? c).bind fun t => (tokens? cs).map (t :: ·)
  | c :: cs         => (plainToken? c).bind fun t => (tokens? cs).map (t :: ·)

-- A star repeats the symbol in front of it.
def ofTokens? : List Token → Option Pattern
  | []                       => some []
  | .start :: ts             => (ofTokens? ts).map (.start :: ·)
  | .symbol s :: .star :: ts => (ofTokens? ts).map (.many s :: ·)
  | .symbol s :: ts          => (ofTokens? ts).map (.one s :: ·)
  | .star :: _               => none

def ofText? (cs : List Char) : Option Pattern :=
  (tokens? cs).bind ofTokens?

-- A character that stands for itself, written so that it does.
def escapeChar (c : Char) : List Char :=
  if isMeta c then ['\\', c] else [c]

def escape (cs : List Char) : List Char :=
  cs.flatMap escapeChar

-- The tokens of a text that is to be found as it is.
def literalTokens (cs : List Char) : List Token :=
  cs.map fun c => .symbol <| .char c

theorem tokens?_plain {c : Char} (hc : c ≠ '\\') :
    tokens? (c :: cs) = (plainToken? c).bind fun t => (tokens? cs).map (t :: ·) := by
  rw [tokens?]
  exact fun _ _ h _ => hc h

theorem tokens?_append {cs' : List Char} {ts : List Token} (h : tokens? cs = some ts) :
    tokens? (cs ++ cs') = (tokens? cs').map (ts ++ ·) := by
  fun_induction tokens? cs generalizing ts
  case case1 => cases h; simp
  case case2 c cs ih =>
    obtain ⟨t, ht, h⟩ := Option.bind_eq_some_iff.mp h
    obtain ⟨us, hu, rfl⟩ := Option.map_eq_some_iff.mp h
    rw [List.cons_append, List.cons_append, tokens?, ht, Option.bind_some, ih hu, Option.map_map]
    rfl
  case case3 c cs _ ih =>
    obtain ⟨t, ht, h⟩ := Option.bind_eq_some_iff.mp h
    obtain ⟨us, hu, rfl⟩ := Option.map_eq_some_iff.mp h
    have hc : c ≠ '\\' := by rintro rfl; cases ht
    rw [List.cons_append, tokens?_plain hc, ht, Option.bind_some, ih hu, Option.map_map]
    rfl

theorem tokens?_escapeChar (c : Char) : tokens? (escapeChar c) = some (literalTokens [c]) := by
  rw [escapeChar]
  split
  case isTrue h =>
    have hs : c ≠ 's' := by rintro rfl; cases h
    rw [tokens?, escapedToken?, if_neg hs, if_pos h]
    rfl
  case isFalse h =>
    have hne : ∀ d, isMeta d → c ≠ d := by rintro d hd rfl; exact h hd
    rw [tokens?_plain <| hne _ rfl, plainToken?, if_neg <| hne _ rfl, if_neg <| hne _ rfl, if_neg h]
    rfl

theorem tokens?_escape (cs : List Char) : tokens? (escape cs) = some (literalTokens cs) := by
  induction cs
  case nil => rfl
  case cons c cs ih =>
    rw [escape, List.flatMap_cons, tokens?_append <| tokens?_escapeChar c, ← escape, ih]
    rfl

theorem ofTokens?_one {ts : List Token} (h : ts.head? ≠ some .star) :
    ofTokens? (.symbol s :: ts) = (ofTokens? ts).map (.one s :: ·) := by
  rw [ofTokens?]
  rintro us rfl
  exact h rfl

theorem ofTokens?_literalTokens_append {ts : List Token} (h : ts.head? ≠ some .star) :
    ofTokens? (literalTokens cs ++ ts) = (ofTokens? ts).map (literal cs ++ ·) := by
  induction cs
  case nil => simp [literal, literalTokens]
  case cons c cs ih =>
    have hs : (literalTokens cs ++ ts).head? ≠ some .star := by
      cases cs
      case nil  => exact h
      case cons => nofun
    have hc : literalTokens (c :: cs) ++ ts = .symbol (.char c) :: (literalTokens cs ++ ts) := rfl
    rw [hc, ofTokens?_one hs, ih, Option.map_map]
    rfl

end Pattern

-- What is called of an engine for patterns: it makes a text into one that spells it, and tells
-- whether the pattern that a text spells is found in another text.
structure RegexEngine where
  escape  : List Char → List Char
  isMatch : (pattern text : List Char) → Bool

namespace RegexEngine

open Pattern

-- An escaped text stands for the text itself, whatever pattern it is put in, and a pattern is found
-- just where its parts match one after the other.
structure Documented (e : RegexEngine) : Prop where
  escape  : ∀ text, tokens? (e.escape text) = some (literalTokens text)
  isMatch : ∀ {cs p text}, ofText? cs = some p → (e.isMatch cs text ↔ p.IsFoundIn text)

-- An engine that puts a backslash where it must, and tries all ways to match.
def backtracking : RegexEngine where
  escape          := Pattern.escape
  isMatch cs text := (ofText? cs).any fun p => p.IsFoundIn text

theorem backtracking_documented : backtracking.Documented where
  escape    := tokens?_escape
  isMatch h := by simp [backtracking, h]

end RegexEngine

end TabPruning
