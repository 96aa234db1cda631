import PayloadDepot.Host.World
import PayloadDepot.Wire.Record

/-!
# Send interceptors

A send interceptor sees every record before it is written and may put another
one in its place.  It learns what became of a record that was sent, and is
closed with its producer.
-/

namespace PayloadDepot

/-- A stage that records pass before they are written. -/
structure SendInterceptor (δ κ ν : Type) where
  onSend : ProducerRecord κ ν → Action δ (ProducerRecord κ ν)
  onAcknowledge : String → Option Fault → Effect δ Unit := fun _ _ => pure ()
  close : Effect δ Unit := pure ()

/-- The timestamp of a record, or the time at which it is asked for. -/
def ProducerRecord.timestampOrNow {δ κ ν : Type} (record : ProducerRecord κ ν) : Effect δ Int :=
  match record.timestamp with
  | some timestamp => pure timestamp
  | none => World.now

end PayloadDepot
