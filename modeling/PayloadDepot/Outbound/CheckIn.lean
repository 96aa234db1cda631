import PayloadDepot.Coding.Codec
import PayloadDepot.Outbound.Settlement
import PayloadDepot.Storage.Depot

/-!
# Checking values in

The interceptor that checks large values in writes key and value once with the
codecs of the producer, estimates the record's size from them and hands the
bytes of the value to the depot.  It never fails a send: a failure is reported
in the record's headers.
-/

namespace PayloadDepot

/-- An interceptor that checks large values in; the serializer of values is the one that a sealing
serializer wraps. -/
structure CheckIn (δ κ ν : Type) where
  depot : Depot δ
  keySerializer : Serializer δ κ
  valueSerializer : Serializer δ ν
  policy : CheckInPolicy := {}

namespace CheckIn

variable {δ κ ν : Type}

/-- Checks the value of a record in if it is over the threshold. -/
def attempt (stage : CheckIn δ κ ν) (record : ProducerRecord κ ν) :
    Action δ (Option Reference) :=
  match record.value with
  | none => pure none
  | some value => do
      let key ← stage.keySerializer.serialize record.topic record.headers record.key
      match ← stage.valueSerializer.serialize record.topic record.headers (some value) with
      | none => return none
      | some payload =>
          if ← Action.lift (stage.policy.isOver .whole record key payload.size) then
            return some (← stage.depot.checkIn record.topic payload)
          else return none

def onSend (stage : CheckIn δ κ ν) (record : ProducerRecord κ ν) :
    Effect δ (ProducerRecord κ ν) :=
  record.settle .whole (stage.attempt record)

def close (stage : CheckIn δ κ ν) : Effect δ Unit := do
  stage.keySerializer.close
  stage.valueSerializer.close
  stage.depot.close

def interceptor (stage : CheckIn δ κ ν) : SendInterceptor δ κ ν where
  onSend record := Action.lift (stage.onSend record)
  close := stage.close

end CheckIn

end PayloadDepot
