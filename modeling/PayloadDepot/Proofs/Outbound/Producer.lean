import PayloadDepot.Outbound.Producer
import PayloadDepot.Proofs.Coding

/-!
# Writing what the interceptors leave

A send passes a record through the interceptors and writes the one that they
leave.  Writing asks the serializer of keys and then that of values, and counts
the record if both give something; for codecs that compute, what is stored
follows from the record, the offset and the clock.
-/

namespace PayloadDepot

variable {δ κ ν : Type}

namespace ProducerRecord

/-- A record as the broker stores it under an offset. -/
def stored (record : ProducerRecord κ ν) (offset : Nat) (now : Int)
    (key value : Option ByteArray) : WireRecord where
  topic := record.topic
  partition := record.partition.getD 0
  offset := offset
  timestamp := record.timestamp.getD now
  key := key
  value := value
  headers := record.headers

@[simp]
theorem on_timestampOrNow (record : ProducerRecord κ ν) (world : World δ) :
    Effect.on record.timestampOrNow world = (record.timestamp.getD world.clock, world) := by
  cases stamped : record.timestamp <;> simp [timestampOrNow, stamped]

/-- The key and the value of a record as two serializers write them, the key first. -/
def encode (record : ProducerRecord κ ν) (keySerializer : Serializer δ κ)
    (valueSerializer : Serializer δ ν) : Action δ (Option ByteArray × Option ByteArray) := do
  let key ← keySerializer.serialize record.topic record.headers record.key
  let value ← valueSerializer.serialize record.topic record.headers record.value
  return (key, value)

/-- The key and the value of a record as two codecs compute them. -/
def encoded (record : ProducerRecord κ ν) (encodeKey : Encoder κ) (encodeValue : Encoder ν) :
    Except Fault (Option ByteArray × Option ByteArray) := do
  let key ← encodeKey record.topic record.headers record.key
  let value ← encodeValue record.topic record.headers record.value
  return (key, value)

/-- What is stored of a record under an offset, if both codecs write it. -/
def written (record : ProducerRecord κ ν) (encodeKey : Encoder κ)
    (encodeValue : Encoder ν) (offset : Nat) (now : Int) : Except Fault WireRecord := do
  let key ← encodeKey record.topic record.headers record.key
  let value ← encodeValue record.topic record.headers record.value
  return record.stored offset now key value

variable {record : ProducerRecord κ ν} {encodeKey : Encoder κ} {encodeValue : Encoder ν}
  {key value : Option ByteArray} {fault : Fault}

theorem encoded_eq_ok_iff : record.encoded encodeKey encodeValue = .ok (key, value) ↔
    encodeKey record.topic record.headers record.key = .ok key ∧
      encodeValue record.topic record.headers record.value = .ok value := by
  rw [encoded]
  cases encodeKey record.topic record.headers record.key with
  | error refusal => simp [bind, Except.bind]
  | ok first =>
      cases encodeValue record.topic record.headers record.value <;>
        simp [bind, Except.bind, pure, Except.pure]

theorem refused_of_encoded (refused : record.encoded encodeKey encodeValue = .error fault) :
    encodeKey record.topic record.headers record.key = .error fault ∨
      encodeValue record.topic record.headers record.value = .error fault := by
  rw [encoded] at refused
  cases keyEq : encodeKey record.topic record.headers record.key with
  | error refusal =>
      rw [keyEq] at refused
      cases refused
      exact .inl rfl
  | ok first =>
      cases valueEq : encodeValue record.topic record.headers record.value with
      | error refusal =>
          rw [keyEq, valueEq] at refused
          cases refused
          exact .inr rfl
      | ok second =>
          rw [keyEq, valueEq] at refused
          cases refused

theorem written_eq_map (record : ProducerRecord κ ν) (encodeKey : Encoder κ)
    (encodeValue : Encoder ν) (offset : Nat) (now : Int) :
    record.written encodeKey encodeValue offset now =
      (record.encoded encodeKey encodeValue).map fun pair =>
        record.stored offset now pair.1 pair.2 := by
  rw [written, encoded]
  cases encodeKey record.topic record.headers record.key with
  | error refusal => rfl
  | ok first => cases encodeValue record.topic record.headers record.value <;> rfl

theorem written_eq_error_iff {offset : Nat} {now : Int} :
    record.written encodeKey encodeValue offset now = .error fault ↔
      record.encoded encodeKey encodeValue = .error fault := by
  rw [written_eq_map]
  cases record.encoded encodeKey encodeValue <;> simp [Except.map]

variable {keySerializer : Serializer δ κ} {valueSerializer : Serializer δ ν}
  {world after : World δ}

theorem encode_bind {α : Type} (record : ProducerRecord κ ν)
    (keySerializer : Serializer δ κ) (valueSerializer : Serializer δ ν)
    (next : Option ByteArray → Option ByteArray → Action δ α) :
    (record.encode keySerializer valueSerializer >>= fun pair => next pair.1 pair.2) =
      keySerializer.serialize record.topic record.headers record.key >>= fun key =>
        valueSerializer.serialize record.topic record.headers record.value >>= next key := by
  simp only [encode, bind_assoc, pure_bind]

theorem exists_of_encode_ok
    (ran : Action.on (record.encode keySerializer valueSerializer) world =
      (.ok (key, value), after)) :
    ∃ middle, Action.on (keySerializer.serialize record.topic record.headers record.key) world =
        (.ok key, middle) ∧
      Action.on (valueSerializer.serialize record.topic record.headers record.value) middle =
        (.ok value, after) := by
  obtain ⟨wroteKey, middle, first, rest⟩ := Action.exists_of_bind_ok ran
  obtain ⟨wroteValue, last, second, done⟩ := Action.exists_of_bind_ok rest
  cases done
  exact ⟨middle, first, second⟩

/-- After a key that is computed, the serializer of values decides. -/
theorem on_encode_of_key (keys : keySerializer.Computes encodeKey)
    (keyEq : encodeKey record.topic record.headers record.key = .ok key)
    (valueSerializer : Serializer δ ν) (world : World δ) :
    Action.on (record.encode keySerializer valueSerializer) world =
      Action.on (Prod.mk key <$>
        valueSerializer.serialize record.topic record.headers record.value) world := by
  rw [encode, keys, Action.on_ofExcept_bind, keyEq]
  rfl

theorem on_encode (keys : keySerializer.Computes encodeKey)
    (values : valueSerializer.Computes encodeValue) (record : ProducerRecord κ ν)
    (world : World δ) :
    Action.on (record.encode keySerializer valueSerializer) world =
      (record.encoded encodeKey encodeValue, world) := by
  rw [encode, encoded, keys, values, Action.on_ofExcept_bind]
  cases encodeKey record.topic record.headers record.key with
  | error refusal => rfl
  | ok first =>
      dsimp only
      rw [Action.on_ofExcept_bind]
      cases encodeValue record.topic record.headers record.value <;> rfl

end ProducerRecord

namespace Producer

variable {producer : Producer δ κ ν} {encodeKey : Encoder κ} {encodeValue : Encoder ν}

section Write

variable {record : ProducerRecord κ ν} {world after : World δ} {key value : Option ByteArray}
  {fault : Fault} {wire : WireRecord}

theorem on_write_of_encoded
    (encoded : Action.on (record.encode producer.keySerializer producer.valueSerializer) world =
      (.ok (key, value), after)) :
    Action.on (producer.write record) world =
      (.ok (record.stored (producer.sent.read after.state) after.clock key value),
        after.withState (producer.sent.write (producer.sent.read after.state + 1)
          after.state)) := by
  rw [write, ← ProducerRecord.encode_bind, Action.on_bind_of_ok encoded, Action.on_lift_bind,
    Action.on_lift_bind, Cell.on_updateGet, ProducerRecord.on_timestampOrNow]
  rfl

theorem on_write_of_refused
    (refused : Action.on (record.encode producer.keySerializer producer.valueSerializer) world =
      (.error fault, after)) :
    Action.on (producer.write record) world = (.error fault, after) := by
  rw [write, ← ProducerRecord.encode_bind, Action.on_bind_of_error refused]

/-- A record that is stored was written by both serializers. -/
theorem exists_of_write_ok (wrote : Action.on (producer.write record) world = (.ok wire, after)) :
    ∃ key value last,
      Action.on (record.encode producer.keySerializer producer.valueSerializer) world =
        (.ok (key, value), last) ∧
      wire = record.stored (producer.sent.read last.state) last.clock key value ∧
      after = last.withState (producer.sent.write (producer.sent.read last.state + 1)
        last.state) := by
  rcases encoded : Action.on (record.encode producer.keySerializer producer.valueSerializer) world
    with ⟨fault | ⟨key, value⟩, last⟩
  · rw [on_write_of_refused encoded] at wrote
    cases wrote
  · rw [on_write_of_encoded encoded] at wrote
    cases wrote
    exact ⟨key, value, last, rfl, rfl, rfl⟩

/-- With codecs that compute, writing counts the records that are stored and does nothing else. -/
theorem on_write_of_computes (keys : producer.keySerializer.Computes encodeKey)
    (values : producer.valueSerializer.Computes encodeValue) (record : ProducerRecord κ ν)
    (world : World δ) :
    Action.on (producer.write record) world =
      let written := record.written encodeKey encodeValue (producer.sent.read world.state)
        world.clock
      (written, if written.toBool then
        world.withState (producer.sent.write (producer.sent.read world.state + 1) world.state)
      else world) := by
  have ran := record.on_encode keys values world
  rw [ProducerRecord.written_eq_map]
  rcases outcome : record.encoded encodeKey encodeValue with fault | ⟨key, value⟩
  · rw [outcome] at ran
    exact on_write_of_refused ran
  · rw [outcome] at ran
    exact on_write_of_encoded ran

theorem of_write_ok (keys : producer.keySerializer.Computes encodeKey)
    (values : producer.valueSerializer.Computes encodeValue)
    (wrote : Action.on (producer.write record) world = (.ok wire, after)) :
    ∃ key value, encodeKey record.topic record.headers record.key = .ok key ∧
      encodeValue record.topic record.headers record.value = .ok value ∧
      wire = record.stored (producer.sent.read world.state) world.clock key value ∧
      after = world.withState (producer.sent.write (producer.sent.read world.state + 1)
        world.state) := by
  obtain ⟨key, value, last, encoded, rfl, rfl⟩ := exists_of_write_ok wrote
  obtain ⟨computed, rfl⟩ := Prod.mk.inj ((record.on_encode keys values world).symm.trans encoded)
  obtain ⟨keyEq, valueEq⟩ := ProducerRecord.encoded_eq_ok_iff.mp computed
  exact ⟨key, value, keyEq, valueEq, rfl, rfl⟩

theorem of_write_error (keys : producer.keySerializer.Computes encodeKey)
    (values : producer.valueSerializer.Computes encodeValue)
    (wrote : Action.on (producer.write record) world = (.error fault, after)) :
    after = world ∧ (encodeKey record.topic record.headers record.key = .error fault ∨
      encodeValue record.topic record.headers record.value = .error fault) := by
  have ran := record.on_encode keys values world
  rcases outcome : record.encoded encodeKey encodeValue with refusal | ⟨key, value⟩
  · rw [on_write_of_refused (outcome ▸ ran)] at wrote
    cases wrote
    exact ⟨rfl, ProducerRecord.refused_of_encoded outcome⟩
  · rw [on_write_of_encoded (outcome ▸ ran)] at wrote
    cases wrote

end Write

theorem on_intercept_of_ok {interceptor : SendInterceptor δ κ ν} {record next : ProducerRecord κ ν}
    {world after : World δ}
    (ran : Action.on (interceptor.onSend record) world = (.ok next, after)) :
    Effect.on (intercept record [interceptor]) world = (next, after) := by
  simp only [intercept, Effect.on_bind, Effect.on_attempt, ran, Effect.on_pure]

/-- An interceptor that fails is left out. -/
theorem on_intercept_of_error {interceptor : SendInterceptor δ κ ν}
    {record : ProducerRecord κ ν} {world after : World δ} {fault : Fault}
    (ran : Action.on (interceptor.onSend record) world = (.error fault, after)) :
    ∃ journal, Effect.on (intercept record [interceptor]) world =
      (record, after.withJournal journal) := by
  simp only [intercept, Effect.on_bind, Effect.on_attempt, ran, World.on_log, Effect.on_pure]
  exact ⟨_, rfl⟩

/-- Interceptors that are told of a record and do nothing about it. -/
def Silent (interceptors : List (SendInterceptor δ κ ν)) : Prop :=
  ∀ interceptor ∈ interceptors, ∀ topic fault, interceptor.onAcknowledge topic fault = pure ()

theorem silent_singleton {interceptor : SendInterceptor δ κ ν}
    (idle : ∀ topic fault, interceptor.onAcknowledge topic fault = pure ()) :
    Silent [interceptor] := by
  intro other member
  rw [List.mem_singleton.mp member]
  exact idle

theorem on_acknowledge (silent : Silent producer.interceptors) (topic : String)
    (fault : Option Fault) (world : World δ) :
    Effect.on (producer.acknowledge topic fault) world = ((), world) := by
  rw [acknowledge]
  generalize producer.interceptors = interceptors at silent
  induction interceptors with
  | nil => rfl
  | cons interceptor later inductionHypothesis =>
      have first := silent interceptor List.mem_cons_self topic fault
      have rest : Silent later := fun other member => silent other (List.mem_cons_of_mem _ member)
      simp only [List.forM, Effect.on_bind, first, Effect.on_pure]
      exact inductionHypothesis rest

/-- A send writes the record that the interceptors leave. -/
theorem on_send (silent : Silent producer.interceptors) {record next : ProducerRecord κ ν}
    {world before : World δ}
    (ran : Effect.on (intercept record producer.interceptors) world = (next, before)) :
    Action.on (producer.send record) world = Action.on (producer.write next) before := by
  rw [send, Action.on_lift_bind, ran, Action.on_bind]
  rcases Action.on (producer.write next) before with ⟨fault | wire, after⟩
  · rfl
  · simp only [Action.on_lift_bind, on_acknowledge silent, Action.on_pure]

end Producer

end PayloadDepot
