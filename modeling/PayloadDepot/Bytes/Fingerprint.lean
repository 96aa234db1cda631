/-!
# Fingerprints of bytes

A fingerprint is a number of sixty-four bits that depends on every byte and on
the order of the bytes: each byte in turn is mixed into the lowest eight bits,
and the result is multiplied by a prime.
-/

namespace PayloadDepot

namespace Bytes

def fingerprintBasis : UInt64 := 0xCBF29CE484222325

/-- The prime by which fingerprints are multiplied. -/
def fingerprintPrime : UInt64 := 0x100000001B3

def mixByte (fingerprint : UInt64) (byte : UInt8) : UInt64 :=
  (fingerprint ^^^ byte.toUInt64) * fingerprintPrime

def fingerprint (bytes : ByteArray) : UInt64 :=
  bytes.foldl mixByte fingerprintBasis

end Bytes

end PayloadDepot
