/-!
# Hexadecimal digits

Bytes are written with two lower case digits each, and read from two digits of
either case each.
-/

namespace PayloadDepot

namespace Bytes

/-- The lower case hexadecimal digit of a number below sixteen. -/
def hexDigit (value : Nat) : Char :=
  if value < 10 then Char.ofNat (48 + value) else Char.ofNat (87 + value)

def hexOfByte (byte : UInt8) : List Char :=
  [hexDigit (byte.toNat / 16), hexDigit (byte.toNat % 16)]

def hex (bytes : List UInt8) : List Char :=
  bytes.flatMap hexOfByte

def digitValue? (character : Char) : Option Nat :=
  if '0' ≤ character ∧ character ≤ '9' then some (character.toNat - '0'.toNat)
  else if 'a' ≤ character ∧ character ≤ 'f' then some (character.toNat - 'a'.toNat + 10)
  else if 'A' ≤ character ∧ character ≤ 'F' then some (character.toNat - 'A'.toNat + 10)
  else none

/-- The bytes that digits write, two for each. -/
def ofHex? : List Char → Option (List UInt8)
  | [] => some []
  | [_] => none
  | high :: low :: later =>
      match digitValue? high, digitValue? low, ofHex? later with
      | some highValue, some lowValue, some bytes =>
          some (UInt8.ofNat (highValue * 16 + lowValue) :: bytes)
      | _, _, _ => none

@[simp]
theorem length_hexOfByte (byte : UInt8) : (hexOfByte byte).length = 2 := rfl

@[simp]
theorem length_hex (bytes : List UInt8) : (hex bytes).length = 2 * bytes.length := by
  induction bytes with
  | nil => rfl
  | cons byte later inductionHypothesis =>
    simp only [hex, List.flatMap_cons, List.length_append, length_hexOfByte,
      List.length_cons] at inductionHypothesis ⊢
    omega

end Bytes

end PayloadDepot
