import PayloadDepot.Coding.Codec
import PayloadDepot.Inbound.Interceptor

/-!
# Consumers

A consumer decodes the records of a batch in order, the key before the value,
and passes the batch through its interceptors.  The first failure ends the poll,
and nothing of the batch is delivered.
-/

namespace PayloadDepot

/-- The stages of receiving. -/
structure Consumer (δ κ ν : Type) where
  keyDeserializer : Deserializer δ κ
  valueDeserializer : Deserializer δ ν
  interceptors : List (ReceiveInterceptor δ κ ν) := []

namespace Consumer

variable {δ κ ν : Type}

def decode (consumer : Consumer δ κ ν) (wire : WireRecord) : Action δ (ConsumerRecord κ ν) := do
  let key ← consumer.keyDeserializer.deserialize wire.topic wire.headers wire.key
  let value ← consumer.valueDeserializer.deserialize wire.topic wire.headers wire.value
  return {
    topic := wire.topic
    partition := wire.partition
    offset := wire.offset
    timestamp := wire.timestamp
    key := key
    value := value
    headers := wire.headers }

def intercept (batch : Batch κ ν) : List (ReceiveInterceptor δ κ ν) → Action δ (Batch κ ν)
  | [] => pure batch
  | interceptor :: later => do
      let next ← interceptor.onReceive batch
      intercept next later

/-- Decodes the records that were fetched and passes them through the interceptors. -/
def poll (consumer : Consumer δ κ ν) (fetched : List WireRecord) : Action δ (Batch κ ν) := do
  let records ← fetched.mapM consumer.decode
  intercept ⟨records⟩ consumer.interceptors

/-- Closes the interceptors and then the deserializers. -/
def close (consumer : Consumer δ κ ν) : Effect δ Unit := do
  consumer.interceptors.forM (fun interceptor => interceptor.close)
  consumer.keyDeserializer.close
  consumer.valueDeserializer.close

end Consumer

end PayloadDepot
