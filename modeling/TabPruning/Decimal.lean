namespace TabPruning

-- The value is significand times ten to the exponent.
structure Decimal where
  significand : Nat
  exponent    : Int
  deriving DecidableEq, Repr

-- A positive quotient of whole numbers.
structure Quotient where
  num : Nat
  den : Nat

namespace Quotient

-- The count of two to the power of the exponent.
def ofBinary (count : Nat) (exponent : Int) : Quotient :=
  ⟨count * Nat.pow 2 exponent.toNat, Nat.pow 2 (-exponent).toNat⟩

-- How many times the power of ten with this exponent fits, as a quotient.
def inUnits (q : Quotient) (exponent : Int) : Quotient :=
  ⟨q.num * Nat.pow 10 (-exponent).toNat, q.den * Nat.pow 10 exponent.toNat⟩

-- The greatest exponent of ten whose power is not greater.
def magnitude (q : Quotient) : Int :=
  if q.den ≤ q.num then ((Nat.toDigits 10 (q.num / q.den)).length : Int) - 1
  else
    let digits := (Nat.toDigits 10 (q.den / q.num)).length
    if q.den ≤ q.num * Nat.pow 10 (digits - 1) then -((digits : Int) - 1) else -(digits : Int)

def le (p q : Quotient) : Bool :=
  p.num * q.den ≤ q.num * p.den

def lt (p q : Quotient) : Bool :=
  p.num * q.den < q.num * p.den

end Quotient

namespace Decimal

def toQuotient (d : Decimal) : Quotient :=
  ⟨d.significand * Nat.pow 10 d.exponent.toNat, Nat.pow 10 (-d.exponent).toNat⟩

-- The reals that read back as one double. Those at its two ends do if the significand is even.
structure Interval where
  value  : Quotient
  low    : Quotient
  high   : Quotient
  closed : Bool

-- For a significand of at most 53 bits; below a power of two the neighbour is half as far away,
-- unless the exponent is the least one.
def Interval.ofBinary (significand : Nat) (exponent : Int) (narrow : Bool) : Interval where
  value  := .ofBinary (4 * significand) (exponent - 2)
  low    := .ofBinary (4 * significand - if narrow then 1 else 2) (exponent - 2)
  high   := .ofBinary (4 * significand + 2) (exponent - 2)
  closed := significand % 2 = 0

def Interval.holds (i : Interval) (d : Decimal) : Bool :=
  let q := d.toQuotient
  if i.closed then i.low.le q && q.le i.high else i.low.lt q && q.lt i.high

-- The nearest of the decimals with this exponent, if it reads back; a tie goes to the even one.
def Interval.onGrid? (i : Interval) (exponent : Int) : Option Decimal :=
  let q := i.value.inUnits exponent
  let below := q.num / q.den
  let twice := 2 * (q.num % q.den)
  let down : Decimal := ⟨below, exponent⟩
  let up : Decimal := ⟨below + 1, exponent⟩
  let first := if twice < q.den || (twice = q.den && below % 2 = 0) then down else up
  let second := if first = down then up else down
  if i.holds first then some first else if i.holds second then some second else none

-- The first grid with a decimal that reads back, from one digit to seventeen.
def Interval.shortest (i : Interval) : Decimal :=
  let top := i.value.magnitude
  ((List.range 17).findSome? fun (n : Nat) => i.onGrid? (top - n)).getD ⟨0, 0⟩

-- Trailing zeros go into the exponent.
def normalize (d : Decimal) : Decimal :=
  let digits := Nat.toDigits 10 d.significand
  let zeros := (digits.reverse.takeWhile (· = '0')).length
  ⟨d.significand / Nat.pow 10 zeros, d.exponent + zeros⟩

-- Of a finite double other than zero, its sign left out.
def ofBits (bits : UInt64) : Decimal :=
  let fraction := (bits &&& 0xFFFFFFFFFFFFF).toNat
  let biased := ((bits >>> 52) &&& 0x7FF).toNat
  let significand := if biased = 0 then fraction else fraction + 0x10000000000000
  let exponent : Int := (max biased 1 : Int) - 1075
  (Interval.ofBinary significand exponent (fraction = 0 && biased > 1)).shortest.normalize

-- Between these places of the point, both included, no exponent is written.
structure Layout where
  lowest  : Int
  highest : Int
  -- The sign of an exponent that is not negative.
  plus    : List Char

-- The point may lie outside of the digits; there is always a digit on both of its sides.
def positional (digits : List Char) (point : Int) : List Char :=
  if point ≤ 0 then ['0', '.'] ++ List.replicate (-point).toNat '0' ++ digits
  else if (digits.length : Int) ≤ point then
    digits ++ List.replicate (point.toNat - digits.length) '0' ++ ['.', '0']
  else digits.take point.toNat ++ ['.'] ++ digits.drop point.toNat

-- A single digit stands without a point.
def Layout.scientific (f : Layout) (digits : List Char) (exponent : Int) : List Char :=
  digits.take 1 ++ (if digits.length = 1 then [] else '.' :: digits.drop 1) ++
    ['e'] ++ (if exponent < 0 then ['-'] else f.plus) ++ Nat.toDigits 10 exponent.natAbs

def write (d : Decimal) (f : Layout) : List Char :=
  let digits := Nat.toDigits 10 d.significand
  let point := d.exponent + digits.length
  if f.lowest ≤ point && point ≤ f.highest then positional digits point
  else f.scientific digits (point - 1)

-- A finite double with the fewest digits that read back.
def writeBits (bits : UInt64) (f : Layout) : List Char :=
  let sign := if bits >>> 63 = 1 then ['-'] else []
  sign ++ if (bits <<< 1) = 0 then "0.0".toList else (ofBits bits).write f

end Decimal

end TabPruning
