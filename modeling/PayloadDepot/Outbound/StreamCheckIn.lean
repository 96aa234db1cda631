import PayloadDepot.Coding.Codec
import PayloadDepot.Outbound.Settlement
import PayloadDepot.Storage.Depot
import PayloadDepot.Stream.Handle
import PayloadDepot.Wire.DeclaredLength

/-!
# Checking streams in

The interceptor that checks large streams in decides by the length that the
record declares, and the depot reads the stream itself.  A record that declares
no length, or none that can be read, is refused before anything else happens.
-/

namespace PayloadDepot

/-- An interceptor that checks large streams in. -/
structure StreamCheckIn (δ κ : Type) where
  depot : Depot δ
  keySerializer : Serializer δ κ
  policy : CheckInPolicy := {}

namespace StreamCheckIn

variable {δ κ : Type}

/-- Checks the stream of a record in if its declared length is over the threshold. -/
def attempt (stage : StreamCheckIn δ κ) (record : ProducerRecord κ StreamHandle) (length : Nat) :
    Action δ (Option Reference) :=
  match record.value with
  | none => pure none
  | some source => do
      let key ← stage.keySerializer.serialize record.topic record.headers record.key
      if ← Action.lift (stage.policy.isOver .streamed record key length) then
        return some (← stage.depot.checkInStream record.topic source length)
      else return none

/-- The record that goes on to be written; it has to declare its length. -/
def onSend (stage : StreamCheckIn δ κ) (record : ProducerRecord κ StreamHandle) :
    Action δ (ProducerRecord κ StreamHandle) := do
  let length ← Action.ofExcept record.headers.declaredLength
  Action.lift (record.settle .streamed (stage.attempt record length))

def close (stage : StreamCheckIn δ κ) : Effect δ Unit := do
  stage.keySerializer.close
  stage.depot.close

def interceptor (stage : StreamCheckIn δ κ) : SendInterceptor δ κ StreamHandle where
  onSend := stage.onSend
  close := stage.close

end StreamCheckIn

end PayloadDepot
