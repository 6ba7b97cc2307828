import TabPruning.Json.Scan

namespace TabPruning.Json

def maxSignificand : Nat :=
  0xFFFFFFFFFFFFFFFF

def maxExponent : Nat :=
  0x7FFFFFFF

-- Takes digits as long as the number they spell stays within the limit; the others are left.
def takeDigits (limit n : Nat) : List Char → Nat × List Char
  | []      => (n, [])
  | c :: cs =>
    let next := 10 * n + (c.toNat - '0'.toNat)
    if limit < next then (n, c :: cs) else takeDigits limit next cs

def tenTo (n : Nat) : Float :=
  Float.ofScientific 1 false n

-- Scales in one step by a power of ten that a double can hold, or in several steps down; nothing
-- if the result is too large.
def scale? (x : Float) (exponent : Int) : Option Float :=
  if exponent.natAbs ≤ 308 then
    if 0 ≤ exponent then
      let y := x * tenTo exponent.natAbs
      if y.isInf then none else some y
    else some (x / tenTo exponent.natAbs)
  else if x == 0 then some x
  else if 0 ≤ exponent then none
  else scale? (x / tenTo 308) (exponent + 308)
  termination_by (-exponent).toNat

-- The value of a number from its parts; `rest` is what follows it.
def floating (negative : Bool) (significand : Nat) (exponent : Int) (rest : List Char) :
    Except Stop (Number × List Char) :=
  match scale? significand.toUInt64.toFloat exponent with
  | some x => .ok (.floating (if negative then -x else x), rest)
  | none   => .error (.here .numberOutOfRange rest)

def isExponentMark (c : Char) : Bool :=
  c = 'e' || c = 'E'

-- A sign, if there is one; whether it is a minus.
def exponentSign : List Char → Bool × List Char
  | '-' :: s => (true, s)
  | '+' :: s => (false, s)
  | s        => (false, s)

-- An exponent from behind its mark, of a number with the given other parts.
def exponentPart (negative : Bool) (significand : Nat) (exponent : Int) (s : List Char) :
    Except Stop (Number × List Char) :=
  let (down, s) := exponentSign s
  match s with
  | []     => .error (.here .endInValue [])
  | c :: s =>
    if !c.isDigit then .error (.past 1 .invalidNumber (c :: s))
    else
      let digits := (c :: s).takeWhile Char.isDigit
      let rest := (c :: s).dropWhile Char.isDigit
      match takeDigits maxExponent 0 digits with
      | (n, [])        =>
        floating negative significand (if down then exponent - n else exponent + n) rest
      | (_, _ :: more) =>
        if significand ≠ 0 && !down then .error (.here .numberOutOfRange (more ++ rest))
        else .ok (.floating (if negative then -0.0 else 0.0), rest)

-- Decimals from behind their point.
def decimalPart (negative : Bool) (significand : Nat) (exponent : Int) (s : List Char) :
    Except Stop (Number × List Char) :=
  let digits := s.takeWhile Char.isDigit
  let rest := s.dropWhile Char.isDigit
  match digits, rest with
  | [], []     => .error (.here .endInValue [])
  | [], _ :: _ => .error (.past 1 .invalidNumber rest)
  | _ :: _, _  =>
    let (n, left) := takeDigits maxSignificand significand digits
    let exponent := exponent - (digits.length - left.length : Nat)
    match rest with
    | c :: rest' =>
      if isExponentMark c then exponentPart negative n exponent rest'
      else floating negative n exponent rest
    | [] => floating negative n exponent []

-- The integer with this sign, or the double nearest to it if 64 bits do not hold it.
def integer (negative : Bool) (n : Nat) : Number :=
  if !negative then .integer n
  else if n = 0 || 0x8000000000000000 < n then .floating (-n.toUInt64.toFloat)
  else .integer (-n)

-- A number from behind its minus, if it has one.
def scanNumber (negative : Bool) (s : List Char) : Except Stop (Number × List Char) :=
  match s with
  | []     => .error (.here .endInValue [])
  | c :: s =>
    if !c.isDigit then .error (.past 1 .invalidNumber (c :: s))
    else
      let digits := (c :: s).takeWhile Char.isDigit
      let rest := (c :: s).dropWhile Char.isDigit
      match c, digits with
      | '0', _ :: d :: more => .error (.past 1 .invalidNumber (d :: more ++ rest))
      | _, _                =>
        let (n, left) := takeDigits maxSignificand 0 digits
        match rest with
        | '.' :: rest' => decimalPart negative n left.length rest'
        | e :: rest'   =>
          if isExponentMark e then exponentPart negative n left.length rest'
          else whole negative n left rest
        | []           => whole negative n left []
where
  whole (negative : Bool) (n : Nat) (left rest : List Char) : Except Stop (Number × List Char) :=
    if left = [] then .ok (integer negative n, rest)
    else floating negative n left.length rest

def skipDigits (s : List Char) : Tail s :=
  ⟨s.dropWhile Char.isDigit, (List.dropWhile_sublist Char.isDigit).length_le⟩

def skipExponent (s : List Char) : Except Stop (Tail s) :=
  match h : (exponentSign s).2 with
  | []     => .error (.here .invalidNumber [])
  | c :: t =>
    if c.isDigit then
      let u := skipDigits t
      .ok ⟨u.1, by
        have := u.2
        have : t.length + 1 ≤ s.length := by
          rw [← List.length_cons (a := c), ← h]; unfold exponentSign; split <;> simp
        omega⟩
    else .error (.past 1 .invalidNumber (c :: t))

def skipAfterDecimals (s : List Char) : Except Stop (Tail s) :=
  match s with
  | c :: t =>
    if isExponentMark c then do
      let u ← skipExponent t
      return .behind u
    else .ok (.all (c :: t))
  | [] => .ok (.all [])

-- Passes over what may follow the digits of a number's whole part.
def skipAfterWhole (s : List Char) : Except Stop (Tail s) :=
  match s with
  | '.' :: t =>
    match t with
    | c :: t' =>
      if c.isDigit then do
        let u := skipDigits t'
        let v ← skipAfterDecimals u.1
        return ⟨v.1, by have := u.2; have := v.2; simp; omega⟩
      else .error (.past 1 .invalidNumber (c :: t'))
    | [] => .error (.here .invalidNumber [])
  | s => skipAfterDecimals s

-- Passes over a number from behind its minus, if it has one.
def skipNumber : Scanner Unit
  | []     => .error (.here .invalidNumber [])
  | c :: s =>
    if c = '0' then
      if (s.head?.any Char.isDigit) then .error (.past 1 .invalidNumber s)
      else finish c (.all s)
    else if c.isDigit then finish c (skipDigits s)
    else .error (.past 1 .invalidNumber (c :: s))
where
  finish (c : Char) {s : List Char} (u : Tail s) : Except Stop (Scan Unit (c :: s)) := do
    let v ← skipAfterWhole u.1
    return ⟨(), v.1, by have := u.2; have := v.2; simp; omega⟩

end TabPruning.Json
