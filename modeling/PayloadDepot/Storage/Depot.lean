import PayloadDepot.Claim.Reference
import PayloadDepot.Host.World
import PayloadDepot.Stream.Handle

/-!
# Depots

A depot keeps payloads that were checked in and hands them out again under the
references it gave for them.  Payloads lie in containers, one for each topic.
-/

namespace PayloadDepot

/-- What can be done with a depot. -/
structure Depot (δ : Type) where
  name : String
  checkIn : String → ByteArray → Action δ Reference
  checkInStream : String → StreamHandle → Nat → Action δ Reference
  checkOut : Reference → Action δ ByteArray
  checkOutStream : Reference → Action δ StreamHandle
  close : Effect δ Unit

namespace Depot

variable {δ : Type}

def logCheckedIn (topic : String) (reference : Reference) (length : Nat) : Effect δ Unit :=
  World.log .debug
    s!"checked in claim check: topic={topic}, ref={reference.text}, length={length}"

def logClosed (name : String) : Effect δ Unit :=
  World.log .info s!"closed claim check backend: {name}"

/-- Reads a stream for its declared length; a stream that ends earlier breaks the contract. -/
def readDeclared (source : StreamHandle) (length : Nat) : Action δ ByteArray := do
  match ← Action.lift (source.take length) with
  | .error fault => Action.fail (.io fault)
  | .ok bytes =>
      if bytes.size = length then return bytes
      else Action.fail (.contract (.streamShort bytes.size length))

end Depot

end PayloadDepot
