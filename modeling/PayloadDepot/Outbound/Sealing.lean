import PayloadDepot.Claim.Outcome
import PayloadDepot.Coding.Codec
import PayloadDepot.Setup.Keys

/-!
# Sealing values

The sealing serializer completes what an interceptor began.  It ends a send
whose check-in failed, so the failure reaches the sender, and it writes a value
that was checked in as the empty one, which no reader takes for a deletion.
Every other value goes to the serializer that it wraps.
-/

namespace PayloadDepot

/-- The serializer that ends failed sends and leaves out values that were checked in. -/
def Serializer.sealing {δ ν : Type} (wrapped : Serializer δ ν) : Serializer δ ν where
  id := Keys.claimCheckCodec
  serialize topic headers value := do
    match ← Action.ofExcept (Outcome.ofHeaders headers) with
    | .failed description => Action.fail (.externalization description)
    | .externalized _ => return some ByteArray.empty
    | .passthrough => wrapped.serialize topic headers value
  close := wrapped.close

end PayloadDepot
