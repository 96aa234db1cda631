import PayloadDepot.Coding.Codec
import PayloadDepot.Outbound.Interceptor

/-!
# Producers

A producer passes each record through its interceptors, one after the other, and
then writes key and value.  An interceptor that fails is left out: the journal
notes it, and the record goes on as it was before.  A serializer that fails ends
the send.  Offsets count the sends that succeeded.
-/

namespace PayloadDepot

/-- The stages of sending; the number of records sent so far is kept in a place. -/
structure Producer (δ κ ν : Type) where
  keySerializer : Serializer δ κ
  valueSerializer : Serializer δ ν
  interceptors : List (SendInterceptor δ κ ν) := []
  /-- The count has no bound here.  In a signed word of 64 bits it is the same for the first
  `2 ^ 63` records. -/
  sent : Cell δ Nat

namespace Producer

variable {δ κ ν : Type}

/-- Passes a record through interceptors, leaving out those that fail. -/
def intercept (record : ProducerRecord κ ν) :
    List (SendInterceptor δ κ ν) → Effect δ (ProducerRecord κ ν)
  | [] => pure record
  | interceptor :: later => do
      match ← Action.attempt (interceptor.onSend record) with
      | .ok next => intercept next later
      | .error fault =>
          let (topic, error) := (record.topic, fault.message)
          World.log .warn
            s!"error executing interceptor onSend callback: topic={topic}, error={error}"
          intercept record later

def write (producer : Producer δ κ ν) (record : ProducerRecord κ ν) : Action δ WireRecord := do
  let key ← producer.keySerializer.serialize record.topic record.headers record.key
  let value ← producer.valueSerializer.serialize record.topic record.headers record.value
  let offset ← Action.lift (producer.sent.updateGet (fun sent => (sent, sent + 1)))
  let timestamp ← Action.lift record.timestampOrNow
  return {
    topic := record.topic
    partition := record.partition.getD 0
    offset := offset
    timestamp := timestamp
    key := key
    value := value
    headers := record.headers }

/-- Tells all interceptors what became of a record for a topic. -/
def acknowledge (producer : Producer δ κ ν) (topic : String) (fault : Option Fault) :
    Effect δ Unit :=
  producer.interceptors.forM (fun interceptor => interceptor.onAcknowledge topic fault)

/-- Sends a record and gives it as the broker stores it. -/
def send (producer : Producer δ κ ν) (record : ProducerRecord κ ν) : Action δ WireRecord := do
  let intercepted ← Action.lift (intercept record producer.interceptors)
  let wire ← producer.write intercepted
  Action.lift (producer.acknowledge wire.topic none)
  return wire

def close (producer : Producer δ κ ν) : Effect δ Unit := do
  producer.interceptors.forM (fun interceptor => interceptor.close)
  producer.keySerializer.close
  producer.valueSerializer.close

end Producer

end PayloadDepot
