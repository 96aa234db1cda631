/-!
# Equality of bytes

Bytes that are equal hold the same numbers in the same order, which is decided by
comparing them.  Every comparison of bytes in the library is this one.
-/

namespace PayloadDepot

instance Bytes.decidableEq : DecidableEq ByteArray :=
  ByteArray.instDecidableEq

end PayloadDepot
