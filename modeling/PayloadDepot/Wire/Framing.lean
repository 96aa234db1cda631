import PayloadDepot.Wire.Headers

/-!
# The size of a record on the wire

A record is sent as the only one of an uncompressed batch: a batch header of
fixed size, then the record's length, its attributes, two deltas that are zero,
the key, the value and the headers.  Every length is a variable-length integer
in zigzag form with seven bits to a byte.
-/

namespace PayloadDepot

namespace Framing

/-- The size of a batch's header. -/
def batchOverhead : Nat := 61

/-- The number of groups of seven bits that a number takes. -/
def groupCount (number : Nat) : Nat :=
  if number < 0x80 then 1 else groupCount (number / 0x80) + 1

def varintSize (value : Nat) : Nat :=
  groupCount (2 * value)

/-- The size of bytes that may be absent, from their length. -/
def nullableSize : Option Nat → Nat
  | none => 1
  | some length => varintSize length + length

def headerSize (header : Header) : Nat :=
  nullableSize (some header.key.utf8ByteSize) + nullableSize (some header.value.size)

/-- The size of a record without its own length. -/
def bodySize (keyLength valueLength : Option Nat) (headers : Headers) : Nat :=
  1 + varintSize 0 + varintSize 0 + nullableSize keyLength + nullableSize valueLength +
    varintSize headers.size + (headers.entries.map headerSize).foldr (· + ·) 0

def recordSize (keyLength valueLength : Option Nat) (headers : Headers) : Nat :=
  let body := bodySize keyLength valueLength headers
  varintSize body + body

end Framing

/-- How the size of a record is estimated from its key, the length of its value, its headers and
its timestamp. -/
abbrev SizeEstimator := Option ByteArray → Option Nat → Headers → Int → Nat

/-- The size of a batch that holds the record alone. -/
def Framing.estimate : SizeEstimator :=
  fun key valueLength headers _ =>
    Framing.batchOverhead + Framing.recordSize (key.map ByteArray.size) valueLength headers

end PayloadDepot
