import PayloadDepot.Outbound.StreamCheckIn
import PayloadDepot.Proofs.Outbound.Send
import PayloadDepot.Proofs.Storage.Frame
import PayloadDepot.Proofs.Storage.Ledger

/-!
# Stages with a ledger

The calls of a depot are entered into a ledger that lies beside the state of the
serializers.  They do not see it, whatever they do, so nothing but a check-in is
entered into it while a record is sent.
-/

namespace PayloadDepot

variable {δ κ ν τ : Type}

namespace Serializer

variable {serializer : Serializer δ ν}

/-- The serializer on a state that has something else beside it, which it does not see. -/
def beside (serializer : Serializer δ ν) : Serializer (δ × τ) ν where
  id := serializer.id
  serialize topic headers value := (serializer.serialize topic headers value).beside
  close := serializer.close.beside

theorem Computes.beside {encode : Encoder ν} (computes : serializer.Computes encode) :
    (serializer.beside : Serializer (δ × τ) ν).Computes encode := by
  intro topic headers value
  change (serializer.serialize topic headers value).beside = _
  rw [computes]
  cases encode topic headers value <;> rfl

end Serializer

/-- Writing calls no depot. -/
theorem Producer.leaves_write {producer : Producer (δ × τ) κ ν} {keySerializer : Serializer δ κ}
    {valueSerializer : Serializer δ ν} {sent : Cell δ Nat}
    (keys : producer.keySerializer = keySerializer.beside)
    (values : producer.valueSerializer = .sealing valueSerializer.beside)
    (counts : producer.sent = sent.beside) (record : ProducerRecord κ ν) :
    Action.Leaves (fun world => world.state.2) (producer.write record) := by
  rw [write, keys, values, counts]
  refine .bind (fun _ => rfl) fun key => .bind (.bind (.ofExcept _) fun outcome => ?_) fun value =>
    .bind (fun _ => rfl) fun offset => .bind (fun world => ?_) fun timestamp => .pure _
  · cases outcome with
    | passthrough => exact fun _ => rfl
    | externalized reference => exact .pure _
    | failed description => exact .fail _
  · rw [Action.on_lift, ProducerRecord.on_timestampOrNow]

namespace CheckIn

variable {stage : CheckIn δ κ ν} {record : ProducerRecord κ ν}

/-- The stage with a ledger of the calls of its depot, which its serializers do not see. -/
def ledgered (stage : CheckIn δ κ ν) : CheckIn (δ × Ledger) κ ν where
  depot := stage.depot.ledgered
  keySerializer := stage.keySerializer.beside
  valueSerializer := stage.valueSerializer.beside
  policy := stage.policy

theorem leaves_encode (stage : CheckIn δ κ ν) (record : ProducerRecord κ ν) :
    Action.Leaves (fun world => world.state.2) (stage.ledgered.encode record) :=
  .bind (fun _ => rfl) fun _ => .bind (fun _ => rfl) fun _ => .pure _

theorem leaves_write (stage : CheckIn δ κ ν) (sent : Cell δ Nat) (record : ProducerRecord κ ν) :
    Action.Leaves (fun world => world.state.2)
      ((Producer.checkingIn stage.ledgered sent.beside).write record) :=
  Producer.leaves_write rfl rfl rfl record

theorem ledger_of_encoded {world after : World (δ × Ledger)}
    {outcome : Except Fault (Option ByteArray × Option ByteArray)}
    (encoded : Action.on (stage.ledgered.encode record) world = (outcome, after)) :
    after.state.2 = world.state.2 := by
  have left := leaves_encode stage record world
  rwa [encoded] at left

end CheckIn

namespace StreamCheckIn

variable {stage : StreamCheckIn δ κ} {record : ProducerRecord κ StreamHandle}

/-- The stage with a ledger of the calls of its depot, which its serializer does not see. -/
def ledgered (stage : StreamCheckIn δ κ) : StreamCheckIn (δ × Ledger) κ where
  depot := stage.depot.ledgered
  keySerializer := stage.keySerializer.beside
  policy := stage.policy

theorem ledger_of_written {world after : World (δ × Ledger)}
    {outcome : Except Fault (Option ByteArray)}
    (written : Action.on (stage.ledgered.keySerializer.serialize record.topic record.headers
      record.key) world = (outcome, after)) :
    after.state.2 = world.state.2 := by
  cases written
  rfl

end StreamCheckIn

end PayloadDepot
