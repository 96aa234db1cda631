import PayloadDepot.Json.Basic

/-!
# Reading JSON numbers

A number is read into a significand below 2^64 and a power of ten: digits that
would not fit are dropped, and those before the point raise the power.  A whole
number that fits is exact.  Any other one is the significand as a double,
multiplied or divided by the power of ten, which has to stay finite.
-/

namespace PayloadDepot

namespace Json

/-- Bytes of a JSON text that are still to be read. -/
abbrev Unread := List UInt8

def isDigit (byte : UInt8) : Bool :=
  0x30 ≤ byte && byte ≤ 0x39

def digitValue (byte : UInt8) : Nat :=
  byte.toNat - 0x30

/-- A byte sequence as its leading digits and the rest. -/
def splitDigits (unread : Unread) : List Nat × Unread :=
  ((unread.takeWhile isDigit).map digitValue, unread.dropWhile isDigit)

/-- A significand extended by digits as long as it stays below a bound, and the number of digits
that were taken. -/
def extendSignificand (bound : Nat) : (significand taken : Nat) → List Nat → Nat × Nat
  | significand, taken, [] => (significand, taken)
  | significand, taken, digit :: later =>
      if significand * 10 + digit < bound then
        extendSignificand bound (significand * 10 + digit) (taken + 1) later
      else (significand, taken)

/-- A double divided by 10^308 until the power of ten that is left is one of the doubles; at
zero further divisions change nothing. -/
def lowerPower (value : Float) (power : Int) : Float × Int :=
  if _deep : power < -308 then
    if value == 0.0 then (value, 0) else lowerPower (value / 1e308) (power + 308)
  else (value, power)
termination_by (-power).toNat
decreasing_by omega

/-- A significand times a power of ten as a double; it has to be finite. -/
def scaledDouble (significand : Nat) (power : Int) : Except Fault Float :=
  let value := Float.ofNat significand
  if 308 < power then
    if value == 0.0 then .ok value else .error .malformed
  else if 0 ≤ power then
    let product := value * Float.ofScientific 1 false power.toNat
    if product.isInf then .error .malformed else .ok product
  else
    let (lowered, left) := lowerPower value power
    .ok (lowered / Float.ofScientific 1 false (-left).toNat)

/-- A double with the sign of the number it was read for. -/
def signedDouble (negative : Bool) (value : Float) : JsonNumber :=
  .double (if negative then -value else value)

/-- The nearest integer to a given one among those of thirty-two bits. -/
def clampPower (power : Int) : Int :=
  max (-0x80000000) (min 0x7FFFFFFF power)

/-- The number with a significand and a power of ten, from the exponent mark on. -/
def readExponent (negative : Bool) (significand : Nat) (power : Int) (unread : Unread) :
    Except Fault (JsonNumber × Unread) :=
  let (lowers, digitsUnread) :=
    match unread with
    | 0x2B :: later => (false, later)
    | 0x2D :: later => (true, later)
    | _ => (false, unread)
  let (digits, rest) := splitDigits digitsUnread
  match digits, rest with
  | [], [] => .error .unfinished
  | [], _ :: _ => .error .malformed
  | _ :: _, _ =>
      let (exponent, taken) := extendSignificand 0x80000000 0 0 digits
      if taken < digits.length then
        if significand ≠ 0 && !lowers then .error .malformed
        else .ok (signedDouble negative 0.0, rest)
      else do
        let shifted := if lowers then power - exponent else power + exponent
        let value ← scaledDouble significand (clampPower shifted)
        return (signedDouble negative value, rest)

/-- The number with a significand and a power of ten, from where an exponent mark may stand. -/
def readMaybeExponent (negative : Bool) (significand : Nat) (power : Int) (unread : Unread) :
    Except Fault (JsonNumber × Unread) :=
  match unread with
  | 0x65 :: later => readExponent negative significand power later
  | 0x45 :: later => readExponent negative significand power later
  | _ => do
      let value ← scaledDouble significand power
      return (signedDouble negative value, unread)

/-- The number with a whole part, from behind the point on. -/
def readFraction (negative : Bool) (significand : Nat) (power : Int) (unread : Unread) :
    Except Fault (JsonNumber × Unread) :=
  let (digits, rest) := splitDigits unread
  match digits, rest with
  | [], [] => .error .unfinished
  | [], _ :: _ => .error .malformed
  | _ :: _, _ =>
      let (extended, taken) := extendSignificand 0x10000000000000000 significand 0 digits
      readMaybeExponent negative extended (power - taken) rest

/-- The exact number of a sign and a significand; a negative one that is zero or does not fit is
a double. -/
def wholeNumber (negative : Bool) (significand : Nat) : JsonNumber :=
  if !negative then .natural significand
  else if significand = 0 || 0x8000000000000000 < significand then
    .double (-(Float.ofNat significand))
  else .negative (-(significand : Int))

/-- The number whose whole digits were read, from behind them on. -/
def readAfterWhole (negative : Bool) (digits : List Nat) (unread : Unread) :
    Except Fault (JsonNumber × Unread) :=
  let (significand, taken) := extendSignificand 0x10000000000000000 0 0 digits
  let dropped := digits.length - taken
  match unread with
  | 0x2E :: later => readFraction negative significand dropped later
  | 0x65 :: later => readExponent negative significand dropped later
  | 0x45 :: later => readExponent negative significand dropped later
  | _ =>
      if dropped = 0 then .ok (wholeNumber negative significand, unread)
      else do
        let value ← scaledDouble significand dropped
        return (signedDouble negative value, unread)

/-- The number that stands behind an optional minus sign. -/
def readNumber (negative : Bool) (unread : Unread) : Except Fault (JsonNumber × Unread) :=
  match unread with
  | [] => .error .unfinished
  | 0x30 :: later =>
      match later with
      | [] => .ok (wholeNumber negative 0, [])
      | next :: _ =>
          if isDigit next then .error .malformed else readAfterWhole negative [0] later
  | lead :: _ =>
      if isDigit lead then
        let (digits, rest) := splitDigits unread
        readAfterWhole negative digits rest
      else .error .malformed

def skipExponent (unread : Unread) : Except Fault Unread :=
  let digitsUnread :=
    match unread with
    | 0x2B :: later => later
    | 0x2D :: later => later
    | _ => unread
  match splitDigits digitsUnread with
  | ([], _) => .error .malformed
  | (_ :: _, rest) => .ok rest

/-- Skips what may follow the digits behind the point, or the whole digits. -/
def skipMaybeExponent (unread : Unread) : Except Fault Unread :=
  match unread with
  | 0x65 :: later => skipExponent later
  | 0x45 :: later => skipExponent later
  | _ => .ok unread

def skipAfterWhole (unread : Unread) : Except Fault Unread :=
  match unread with
  | 0x2E :: later =>
      match splitDigits later with
      | ([], _) => .error .malformed
      | (_ :: _, rest) => skipMaybeExponent rest
  | _ => skipMaybeExponent unread

/-- Skips a number behind an optional minus sign; a number that is cut off is malformed. -/
def skipNumber (unread : Unread) : Except Fault Unread :=
  match unread with
  | [] => .error .malformed
  | 0x30 :: later =>
      match later with
      | [] => .ok []
      | next :: _ => if isDigit next then .error .malformed else skipAfterWhole later
  | lead :: _ =>
      if isDigit lead then skipAfterWhole (unread.dropWhile isDigit) else .error .malformed

end Json

end PayloadDepot
