/-!
# Shortest decimals

A binary floating-point number stands for every real number that rounds to it.
Among those, the decimal with the fewest digits is chosen, and of two such
decimals the nearer one, the even one on a tie.  All comparisons are made on
natural numbers: a value is a fraction, and so are the ends of the interval of
reals that round to it.
-/

namespace PayloadDepot

namespace Decimal

/-- A nonnegative fraction. -/
structure Fraction where
  numerator : Nat
  denominator : Nat

namespace Fraction

def ofBinary (significand : Nat) (exponent : Int) : Fraction :=
  ⟨significand * Nat.pow 2 exponent.toNat, Nat.pow 2 (-exponent).toNat⟩

def ofDecimal (significand : Nat) (exponent : Int) : Fraction :=
  ⟨significand * Nat.pow 10 exponent.toNat, Nat.pow 10 (-exponent).toNat⟩

def less (left right : Fraction) : Bool :=
  left.numerator * right.denominator < right.numerator * left.denominator

def atMost (left right : Fraction) : Bool :=
  left.numerator * right.denominator ≤ right.numerator * left.denominator

def distance (left right : Fraction) : Fraction :=
  let leftScaled := left.numerator * right.denominator
  let rightScaled := right.numerator * left.denominator
  ⟨(leftScaled - rightScaled) + (rightScaled - leftScaled), left.denominator * right.denominator⟩

/-- The greatest multiple of a power of ten that is at most the fraction, as a multiplier. -/
def floorAt (value : Fraction) (exponent : Int) : Nat :=
  value.numerator * Nat.pow 10 (-exponent).toNat /
    (value.denominator * Nat.pow 10 exponent.toNat)

end Fraction

/-- A positive floating-point number with the reals that round to it. -/
structure Rounding where
  value : Fraction
  low : Fraction
  high : Fraction
  endsIncluded : Bool

namespace Rounding

/-- The rounding interval of a significand and exponent; at the least significand of a binade
that is not the lowest one the gap below is half as wide. -/
def ofBinary (significand : Nat) (exponent : Int) (narrowBelow : Bool) : Rounding where
  value := .ofBinary significand exponent
  low := if narrowBelow then .ofBinary (4 * significand - 1) (exponent - 2)
    else .ofBinary (2 * significand - 1) (exponent - 1)
  high := .ofBinary (2 * significand + 1) (exponent - 1)
  endsIncluded := significand % 2 = 0

def accepts (rounding : Rounding) (decimal : Fraction) : Bool :=
  if rounding.endsIncluded then rounding.low.atMost decimal && decimal.atMost rounding.high
  else rounding.low.less decimal && decimal.less rounding.high

/-- On the grid of multiples of a power of ten, the neighbour of the number that rounds to it:
of two the nearer, on a tie the even one. -/
def neighbour? (rounding : Rounding) (exponent : Int) : Option Nat :=
  let below := rounding.value.floorAt exponent
  let above := below + 1
  let belowValue := Fraction.ofDecimal below exponent
  let aboveValue := Fraction.ofDecimal above exponent
  match decide (below ≠ 0) && rounding.accepts belowValue, rounding.accepts aboveValue with
  | true, true =>
      let belowDistance := belowValue.distance rounding.value
      let aboveDistance := aboveValue.distance rounding.value
      if belowDistance.less aboveDistance then some below
      else if aboveDistance.less belowDistance then some above
      else if below % 2 = 0 then some below else some above
  | true, false => some below
  | false, true => some above
  | false, false => none

/-- The first hit on ever finer grids, each ten times as fine as the one before. -/
def search (rounding : Rounding) (exponent : Int) : (grids : Nat) → Nat × Int
  | 0 => (rounding.value.floorAt exponent, exponent)
  | grids + 1 =>
      match rounding.neighbour? exponent with
      | some significand => (significand, exponent)
      | none => rounding.search (exponent - 1) grids

end Rounding

/-- The decimal exponent of a positive fraction's leading digit. -/
def leadingExponent (value : Fraction) : Int :=
  if value.denominator ≤ value.numerator then
    ((Nat.toDigits 10 (value.numerator / value.denominator)).length : Int) - 1
  else
    -((Nat.toDigits 10 ((value.denominator - 1) / value.numerator)).length : Int)

/-- A decimal: its digits, without zeros at the end, and the place of the point, counted from
before the first digit. -/
structure Digits where
  digits : List Char
  point : Int

/-- A significand and decimal exponent as digits and a point. -/
def Digits.ofScaled (significand : Nat) (exponent : Int) : Digits :=
  let all := Nat.toDigits 10 significand
  ⟨(all.reverse.dropWhile (· = '0')).reverse, all.length + exponent⟩

/-- The sign bit, the significand and the exponent of a double. -/
structure Double where
  negative : Bool
  significand : Nat
  exponent : Int
  narrowBelow : Bool

def Double.ofFloat (value : Float) : Double :=
  let bits := value.toBits.toNat
  let fraction := bits % 0x10000000000000
  let biased := bits / 0x10000000000000 % 0x800
  { negative := bits / 0x8000000000000000 = 1
    significand := if biased = 0 then fraction else fraction + 0x10000000000000
    exponent := (max biased 1 : Nat) - 1075
    narrowBelow := fraction = 0 && 1 < biased }

/-- The shortest digits of a positive finite double. -/
def shortestDigits (double : Double) : Digits :=
  let rounding := Rounding.ofBinary double.significand double.exponent double.narrowBelow
  let (significand, exponent) := rounding.search (leadingExponent rounding.value) 18
  Digits.ofScaled significand exponent

/-- How decimals are written: which places of the point are written out, and which with a power
of ten. -/
structure Layout where
  leastPoint : Int
  greatestPoint : Int

/-- Digits around a point at a given place; whole numbers keep one zero behind the point. -/
def Digits.plain (number : Digits) : List Char :=
  if number.point ≤ 0 then
    ['0', '.'] ++ List.replicate (-number.point).toNat '0' ++ number.digits
  else
    let places := number.point.toNat
    if number.digits.length ≤ places then
      number.digits ++ List.replicate (places - number.digits.length) '0' ++ ['.', '0']
    else
      number.digits.take places ++ ['.'] ++ number.digits.drop places

/-- Digits with one place before the point and a signed power of ten. -/
def Digits.scientific (number : Digits) : List Char :=
  let power := number.point - 1
  let shown :=
    match number.digits with
    | [] => []
    | [digit] => [digit]
    | first :: more => first :: '.' :: more
  shown ++ ['e', if power < 0 then '-' else '+'] ++ Nat.toDigits 10 power.natAbs

/-- A decimal in a layout. -/
def Layout.write (layout : Layout) (number : Digits) : List Char :=
  if layout.leastPoint ≤ number.point ∧ number.point ≤ layout.greatestPoint then number.plain
  else number.scientific

def shortest (layout : Layout) (value : Float) : String :=
  let double := Double.ofFloat value
  let shown := if double.significand = 0 then ['0', '.', '0']
    else layout.write (shortestDigits double)
  String.ofList (if double.negative then '-' :: shown else shown)

end Decimal

end PayloadDepot
