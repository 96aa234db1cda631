/-!
# Signed words

Eight bytes, most significant first, hold an integer between -2^63 and 2^63 - 1
in two's complement.
-/

namespace PayloadDepot

namespace Bytes

/-- The bytes of a natural number below 2^64, most significant first. -/
def wordBytes (value : Nat) : ByteArray :=
  ⟨#[UInt8.ofNat (value / 0x100000000000000), UInt8.ofNat (value / 0x1000000000000),
    UInt8.ofNat (value / 0x10000000000), UInt8.ofNat (value / 0x100000000),
    UInt8.ofNat (value / 0x1000000), UInt8.ofNat (value / 0x10000), UInt8.ofNat (value / 0x100),
    UInt8.ofNat value]⟩

/-- The natural number that some bytes hold, most significant first. -/
def wordValue (bytes : List UInt8) : Nat :=
  bytes.foldl (fun value byte => value * 256 + byte.toNat) 0

/-- The integer that a word holds in two's complement. -/
def signedOfWord (word : Nat) : Int :=
  if word < 0x8000000000000000 then word else (word : Int) - 0x10000000000000000

/-- The integer that eight bytes hold; nothing for any other number of bytes. -/
def signedWord? (bytes : ByteArray) : Option Int :=
  if bytes.size = 8 then some (signedOfWord (wordValue bytes.data.toList)) else none

@[simp]
theorem size_wordBytes (value : Nat) : (wordBytes value).size = 8 := rfl

/-- A number below 2^64 is read back from its bytes. -/
theorem wordValue_wordBytes {value : Nat} (small : value < 0x10000000000000000) :
    wordValue (wordBytes value).data.toList = value := by
  simp only [wordValue, wordBytes, List.foldl_cons, List.foldl_nil, UInt8.toNat_ofNat']
  omega

end Bytes

end PayloadDepot
