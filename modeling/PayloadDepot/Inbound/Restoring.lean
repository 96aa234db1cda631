import PayloadDepot.Claim.Outcome
import PayloadDepot.Coding.Codec
import PayloadDepot.Inbound.Interceptor
import PayloadDepot.Setup.Keys
import PayloadDepot.Storage.Depot

/-!
# Restoring values

A value that was checked in is checked out again on the receiving side, either
while the record is decoded or afterwards, by an interceptor of the batch.  A
record that reports a failed check-in is refused in both ways, and a record
whose value stayed in it is passed on as it is.
-/

namespace PayloadDepot

namespace Deserializer

variable {δ ν : Type}

/-- The deserializer that checks values out before the one that it wraps reads them. -/
def restoring (depot : Depot δ) (wrapped : Deserializer δ ν) : Deserializer δ ν where
  id := Keys.claimCheckCodec
  deserialize topic headers bytes := do
    match ← Action.ofExcept (Outcome.ofHeaders headers) with
    | .failed description => Action.fail (.externalization description)
    | .passthrough => wrapped.deserialize topic headers bytes
    | .externalized reference =>
        Action.lift (World.log .trace
          s!"received claim check: topic={topic}, ref={reference.text}")
        let payload ← depot.checkOut reference
        wrapped.deserialize topic headers (some payload)
  close := do
    wrapped.close
    depot.close

/-- The deserializer that gives every value as a stream, whether it was checked in or not. -/
def restoringStream (depot : Depot δ) : Deserializer δ StreamHandle where
  id := Keys.claimCheckCodec
  deserialize topic headers bytes := do
    match ← Action.ofExcept (Outcome.ofHeaders headers) with
    | .failed description => Action.fail (.externalization description)
    | .passthrough =>
        match bytes with
        | none => return none
        | some present => return some (← Action.lift (StreamHandle.ofBytes present))
    | .externalized reference =>
        Action.lift (World.log .trace
          s!"received streaming claim check: topic={topic}, ref={reference.text}")
        return some (← depot.checkOutStream reference)
  close := depot.close

end Deserializer

namespace ReceiveInterceptor

variable {δ κ ν : Type}

/-- The record with its value checked out and decoded, if the value was checked in. -/
def restoreRecord (depot : Depot δ) (deserializer : Deserializer δ ν)
    (record : ConsumerRecord κ ν) : Action δ (ConsumerRecord κ ν) := do
  match ← Action.ofExcept (Outcome.ofHeaders record.headers) with
  | .passthrough => return record
  | .failed description => Action.fail (.externalization description)
  | .externalized reference =>
      let (topic, partition, offset) := (record.topic, record.partition, record.offset)
      Action.lift (World.log .trace (s!"received claim check: topic={topic}, " ++
        s!"partition={partition}, offset={offset}, ref={reference.text}"))
      let payload ← depot.checkOut reference
      let value ← deserializer.deserialize record.topic record.headers (some payload)
      return record.replaceValue value

/-- The interceptor that restores the values of a batch, in order. -/
def restoring (depot : Depot δ) (deserializer : Deserializer δ ν) :
    ReceiveInterceptor δ κ ν where
  onReceive batch := do
    let records ← batch.records.mapM (restoreRecord depot deserializer)
    return ⟨records⟩
  close := do
    deserializer.close
    depot.close

end ReceiveInterceptor

end PayloadDepot
