import PayloadDepot.Inbound.Restoring
import PayloadDepot.Proofs.Coding.Standard
import PayloadDepot.Proofs.Exchange.Streams
import PayloadDepot.Proofs.Storage.Redemption

/-!
# Streams and whole values

A payload is sent in the same way as a value and as a stream that delivers it:
both sends over a memory depot fail, or both store the same record, and they
leave the same in the depot.  A memory depot does not look at readers when it
keeps a payload, so it makes no difference where the stream was read before.
What is stored is received alike in both ways too.
-/

namespace PayloadDepot

variable {δ κ ν μ α β η : Type}

section Readerless

/-- An effect that neither looks at the readers of the world nor changes them. -/
def Effect.Readerless (effect : Effect δ α) : Prop :=
  ∀ world readers, on effect (world.withReaders readers) =
    ((on effect world).1, (on effect world).2.withReaders readers)

/-- An action that neither looks at the readers of the world nor changes them. -/
def Action.Readerless (action : Action δ α) : Prop :=
  ∀ world readers, on action (world.withReaders readers) =
    ((on action world).1, (on action world).2.withReaders readers)

theorem Effect.Readerless.bind {effect : Effect δ α} {next : α → Effect δ β}
    (first : effect.Readerless) (second : ∀ value, (next value).Readerless) :
    (effect >>= next).Readerless := by
  intro world readers
  rw [on_bind, on_bind, first]
  exact second _ _ readers

namespace Action.Readerless

theorem pure (value : α) : Readerless (Pure.pure value : Action δ α) :=
  fun _ _ => rfl

theorem fail (fault : Fault) : Readerless (Action.fail fault : Action δ α) :=
  fun _ _ => rfl

theorem lift {effect : Effect δ α} (readerless : effect.Readerless) :
    Readerless (Action.lift effect) := by
  intro world readers
  rw [on_lift, on_lift, readerless]

theorem bind {action : Action δ α} {next : α → Action δ β} (first : action.Readerless)
    (second : ∀ value, (next value).Readerless) : (action >>= next).Readerless := by
  intro world readers
  rw [on_bind, on_bind, first]
  rcases on action world with ⟨fault | value, after⟩
  · rfl
  · exact second value after readers

end Action.Readerless

theorem ContainerCache.readerless_getOrCreate {place : Cell δ (ContainerCache η)} (name : String)
    {create : Action δ η} (creates : create.Readerless) :
    (getOrCreate place name create).Readerless := by
  refine .bind (.lift fun _ _ => rfl) fun index => .bind (.lift fun _ _ => rfl) fun cache => ?_
  cases cache.filling index with
  | some handle => exact .pure handle
  | none => exact .bind creates fun handle => .bind (.lift fun _ _ => rfl) fun _ => .pure handle

namespace MemoryDepot

variable {place : Cell δ MemoryDepot}

theorem readerless_createContainer (topic : String) :
    (createContainer place topic).Readerless := by
  refine .bind (fun _ _ => rfl) fun created => ?_
  obtain ⟨container, isNew⟩ := created
  cases isNew with
  | false => exact fun _ _ => rfl
  | true => exact fun _ _ => rfl

theorem readerless_findContainer (topic : String) : (findContainer place topic).Readerless := by
  refine .bind (.lift fun _ _ => rfl) fun depot => ?_
  cases depot.container? topic with
  | some container => exact .pure container
  | none =>
      dsimp only
      cases depot.createsContainers with
      | true => exact .lift (readerless_createContainer topic)
      | false => exact .fail _

/-- A memory depot keeps a payload without a look at the readers. -/
theorem readerless_checkIn (topic : String) (payload : ByteArray) :
    (checkIn place topic payload).Readerless := by
  refine .bind (ContainerCache.readerless_getOrCreate topic (readerless_findContainer topic))
    fun container => .bind (.lift fun _ _ => rfl) fun name => .bind (.lift fun _ _ => rfl)
      fun _ => .bind (.lift fun _ _ => rfl) fun _ => .pure _

end MemoryDepot

end Readerless

section Streams

variable {place : Cell δ MemoryDepot} {source : StreamHandle} {payload : ByteArray}
  {world : World δ}

/-- The bytes read from a stream that delivers a payload first are the payload. -/
theorem eq_of_delivered {bytes : ByteArray}
    (delivers : payload.data.toList <+: source.available world)
    (taken : bytes.data.toList = (source.available world).take payload.size) :
    bytes = payload := by
  rw [ByteArray.ext_iff, ← Array.toList_inj, taken]
  have length : payload.size = payload.data.toList.length := by simp
  rw [length]
  exact (List.prefix_iff_eq_take.mp delivers).symm

theorem size_le_of_delivers (delivers : payload.data.toList <+: source.available world) :
    payload.size ≤ (source.available world).length := by
  simpa using delivers.length_le

/-- A stream that delivers a payload is checked in as the payload is. -/
theorem MemoryDepot.on_checkInStream_of_delivers (place : Cell δ MemoryDepot) (topic : String)
    (delivers : payload.data.toList <+: source.available world) :
    ∃ readers, Action.on (checkInStream place topic source payload.size) world =
      ((Action.on (checkIn place topic payload) world).1,
        (Action.on (checkIn place topic payload) world).2.withReaders readers) := by
  obtain ⟨bytes, readers, read, taken, -⟩ :=
    Depot.on_readDeclared_of_le (size_le_of_delivers delivers)
  obtain rfl := eq_of_delivered delivers taken
  refine ⟨readers, ?_⟩
  rw [checkInStream, Action.on_bind_of_ok read]
  exact readerless_checkIn topic bytes world readers

/-- A stream that delivers a payload of the declared length first is written as the payload. -/
theorem Serializer.on_stream_of_delivers {headers : Headers}
    (declared : headers.declaredLength = .ok payload.size)
    (delivers : payload.data.toList <+: source.available world) (topic : String) :
    ∃ readers, Action.on (stream.serialize topic headers (some source)) world =
      (.ok (some payload), world.withReaders readers) := by
  obtain ⟨bytes, readers, read, taken, -⟩ : ∃ bytes readers,
      Action.on (stream.serialize topic headers (some source)) world =
        (.ok (some bytes), world.withReaders readers) ∧
      bytes.data.toList = (source.available world).take payload.size ∧ _ :=
    on_stream_of_le declared (size_le_of_delivers delivers)
  obtain rfl := eq_of_delivered delivers taken
  exact ⟨readers, read⟩

end Streams

section Receive

/-- What was received of a stored value as bytes and as a stream: the same fault, nothing in both
ways, or a stream of just the bytes. -/
inductive SameValue (after : World δ) :
    Except Fault (Option ByteArray) → Except Fault (Option StreamHandle) → Prop
  | refused (fault : Fault) : SameValue after (.error fault) (.error fault)
  | nothing : SameValue after (.ok none) (.ok none)
  | value {bytes : ByteArray} {stream : StreamHandle}
      (drained : (Effect.on stream.drain after).1 = .ok bytes) :
      SameValue after (.ok (some bytes)) (.ok (some stream))

theorem SameValue.ofBytes (bytes : ByteArray) (world : World δ) :
    SameValue (Effect.on (StreamHandle.ofBytes bytes) world).2 (.ok (some bytes))
      (.ok (some (Effect.on (StreamHandle.ofBytes bytes) world).1)) :=
  .value (StreamHandle.on_drain_ofBytes bytes world)

/-- Whatever was stored is received alike from a memory depot as bytes and as a stream. -/
theorem MemoryDepot.sameValue_restoring (place : Cell δ MemoryDepot) (topic : String)
    (headers : Headers) (value : Option ByteArray) (world : World δ) :
    let whole := Action.on
      ((Deserializer.restoring (depot place) .bytes).deserialize topic headers value) world
    let streamed := Action.on
      ((Deserializer.restoringStream (depot place)).deserialize topic headers value) world
    SameValue streamed.2 whole.1 streamed.1 := by
  simp only [Deserializer.restoring, Deserializer.restoringStream, Action.on_ofExcept_bind]
  cases Outcome.ofHeaders headers with
  | error fault => exact .refused fault
  | ok outcome =>
      cases outcome with
      | failed description => exact .refused _
      | passthrough =>
          cases value with
          | none => exact .nothing
          | some bytes => exact .ofBytes bytes world
      | externalized reference =>
          dsimp only
          rw [Action.on_lift_bind, Action.on_lift_bind, World.on_log, World.on_log]
          have looked (journal : Array JournalLine) :
              Action.on ((depot place).checkOut reference) (world.withJournal journal) =
                ((place.read world.state).find reference, world.withJournal journal) :=
            on_checkOut place reference (world.withJournal journal)
          cases found : (place.read world.state).find reference with
          | error fault =>
              rw [found] at looked
              have streamed (journal : Array JournalLine) :
                  Action.on ((depot place).checkOutStream reference) (world.withJournal journal) =
                    (.error fault, world.withJournal journal) :=
                Action.on_bind_of_error (looked journal) _
              rw [Action.on_bind_of_error (looked _), Action.on_bind_of_error (streamed _)]
              exact .refused fault
          | ok payload =>
              rw [found] at looked
              have streamed (journal : Array JournalLine) :
                  Action.on ((depot place).checkOutStream reference) (world.withJournal journal) =
                    Action.on (Action.lift (StreamHandle.ofBytes payload))
                      (world.withJournal journal) :=
                Action.on_bind_of_ok (looked journal) _
              rw [Action.on_bind_of_ok (looked _), Action.on_bind, streamed]
              exact .ofBytes payload _

end Receive

section Write

/-- The record with another value, of any kind. -/
def ProducerRecord.withValue (record : ProducerRecord κ ν) (value : Option μ) :
    ProducerRecord κ μ :=
  { record with value := value }

/-- Two sends agree: both fail or both store the same record, and they leave the same state. -/
structure SameSend (first second : Except Fault WireRecord × World δ) : Prop where
  stored : second.1.toOption = first.1.toOption
  state : second.2.state = first.2.state

theorem SameSend.of_errors {faultFirst faultSecond : Fault} {first second : World δ}
    (state : second.state = first.state) :
    SameSend (.error faultFirst, first) (.error faultSecond, second) :=
  ⟨rfl, state⟩

variable {encodeKey : Encoder κ}

/-- A record whose headers report a failure is not stored, and nothing changes. -/
theorem Producer.exists_refusal_of_failed (producer : Producer δ κ ν)
    (keys : producer.keySerializer.Computes encodeKey) {wrapped : Serializer δ ν}
    (sealing : producer.valueSerializer = .sealing wrapped) (record : ProducerRecord κ ν)
    {description : String}
    (told : Outcome.ofHeaders record.headers = .ok (.failed description)) (world : World δ) :
    ∃ fault, Action.on (producer.write record) world = (.error fault, world) := by
  cases keyEq : encodeKey record.topic record.headers record.key with
  | error fault =>
      refine ⟨fault, on_write_of_refused ?_⟩
      rw [ProducerRecord.encode, keys, Action.on_ofExcept_bind, keyEq]
  | ok key =>
      refine ⟨.externalization description, on_write_of_refused ?_⟩
      rw [ProducerRecord.on_encode_of_key keys keyEq, sealing,
        Serializer.serialize_sealing_of_failed told]
      rfl

/-- Producers with one serializer of keys store the same record if their serializers of values give
the same bytes. -/
theorem Producer.sameSend_write (first : Producer δ κ ν) (second : Producer δ κ μ)
    (keysFirst : first.keySerializer.Computes encodeKey)
    (keysSecond : second.keySerializer.Computes encodeKey) (sent : second.sent = first.sent)
    (record : ProducerRecord κ ν) (value : Option μ) {bytes : Option ByteArray}
    {world after other otherAfter : World δ}
    (wroteFirst : Action.on (first.valueSerializer.serialize record.topic record.headers
      record.value) world = (.ok bytes, after))
    (wroteSecond : Action.on (second.valueSerializer.serialize record.topic record.headers value)
      other = (.ok bytes, otherAfter))
    (before : other.state = world.state) (state : otherAfter.state = after.state)
    (clock : otherAfter.clock = after.clock) :
    SameSend (Action.on (first.write record) world)
      (Action.on (second.write (record.withValue value)) other) := by
  cases keyEq : encodeKey record.topic record.headers record.key with
  | error fault =>
      have refusedFirst : Action.on (first.write record) world = (.error fault, world) := by
        apply on_write_of_refused
        rw [ProducerRecord.encode, keysFirst, Action.on_ofExcept_bind, keyEq]
      have refusedSecond : Action.on (second.write (record.withValue value)) other =
          (.error fault, other) := by
        apply on_write_of_refused
        change Action.on (second.keySerializer.serialize record.topic record.headers record.key >>=
          _) other = _
        rw [keysSecond, Action.on_ofExcept_bind, keyEq]
      rw [refusedFirst, refusedSecond]
      exact .of_errors before
  | ok key =>
      have storedFirst := on_write_of_encoded
        ((ProducerRecord.on_encode_of_key keysFirst keyEq _ _).trans
          (Action.on_map_of_ok wroteFirst (Prod.mk key)))
      have keyEqSecond : encodeKey (record.withValue value).topic (record.withValue value).headers
        (record.withValue value).key = .ok key := keyEq
      have storedSecond := on_write_of_encoded
        ((ProducerRecord.on_encode_of_key keysSecond keyEqSecond _ _).trans
          (Action.on_map_of_ok wroteSecond (Prod.mk key)))
      rw [storedFirst, storedSecond, sent, state, clock]
      exact ⟨rfl, rfl⟩

end Write

section Send

variable {place : Cell δ MemoryDepot} {keySerializer : Serializer δ κ} {encodeKey : Encoder κ}
  {record : ProducerRecord κ ByteArray} {payload : ByteArray} {source : StreamHandle}
  {world before other : World δ} {next : ProducerRecord κ ByteArray}
  {nextStream : ProducerRecord κ StreamHandle}

/-- The stage that checks payloads into a memory depot as whole values. -/
def MemoryDepot.wholeStage (place : Cell δ MemoryDepot) (keySerializer : Serializer δ κ)
    (policy : CheckInPolicy) : CheckIn δ κ ByteArray where
  depot := depot place
  keySerializer := keySerializer
  valueSerializer := .bytes
  policy := policy

/-- The stage that checks payloads into a memory depot as streams. -/
def MemoryDepot.streamStage (place : Cell δ MemoryDepot) (keySerializer : Serializer δ κ)
    (policy : CheckInPolicy) : StreamCheckIn δ κ where
  depot := depot place
  keySerializer := keySerializer
  policy := policy

namespace MemoryDepot

theorem computes_bytes (place : Cell δ MemoryDepot) (keySerializer : Serializer δ κ)
    (policy : CheckInPolicy) :
    (wholeStage place keySerializer policy).valueSerializer.Computes (.ofFunction .ok) :=
  Serializer.computes_ofFunction "bytes" .ok

variable {policy : CheckInPolicy} {sent : Cell δ Nat}

/-- Records that report failures end both sends, whatever the reports say. -/
theorem sameSend_of_failures (keys : keySerializer.Computes encodeKey)
    (noFailure : record.headers.holdsFailure = false) (report reportStream : String)
    (state : other.state = world.state) :
    SameSend
      (Action.on ((Producer.checkingIn (wholeStage place keySerializer policy) sent).write
        (record.withOutcome (.failed report))) world)
      (Action.on ((Producer.checkingInStreams (streamStage place keySerializer policy) sent).write
        ((record.withValue (some source)).withOutcome (.failed reportStream))) other) := by
  have told (description : String) : Outcome.ofHeaders
      ((Outcome.failed description).apply record.headers) = .ok (.failed description) :=
    Outcome.ofHeaders_apply_failed_of_none noFailure description
  obtain ⟨fault, failed⟩ := Producer.exists_refusal_of_failed
    (.checkingIn (wholeStage place keySerializer policy) sent) keys rfl
    (record.withOutcome (.failed report)) (told report) world
  obtain ⟨faultStream, failedStream⟩ := Producer.exists_refusal_of_failed
    (.checkingInStreams (streamStage place keySerializer policy) sent) keys rfl
    ((record.withValue (some source)).withOutcome (.failed reportStream)) (told reportStream) other
  rw [failed, failedStream]
  exact .of_errors state

/-- A key that cannot be written ends both sends. -/
theorem sameSend_of_keyRefused (keys : keySerializer.Computes encodeKey)
    (holds : record.value = some payload) (noFailure : record.headers.holdsFailure = false)
    (declared : record.headers.declaredLength = .ok payload.size) {fault : Fault}
    (keyEq : encodeKey record.topic record.headers record.key = .error fault)
    (settled : (wholeStage place keySerializer policy).Settled encodeKey (.ofFunction .ok) record
      world next before)
    (passes : (streamStage place keySerializer policy).Passes (record.withValue (some source))
      world nextStream other) :
    SameSend
      (Action.on ((Producer.checkingIn (wholeStage place keySerializer policy) sent).write next)
        before)
      (Action.on ((Producer.checkingInStreams (streamStage place keySerializer policy) sent).write
        nextStream) other) := by
  have verdict : policy.verdict encodeKey (.ofFunction .ok) record world.clock =
      .refused fault := by
    rw [CheckInPolicy.verdict, holds, keyEq]
  have refusedKey : Action.on (keySerializer.serialize record.topic record.headers record.key)
      world = (.error fault, world) := by
    rw [keys, Action.on_ofExcept, keyEq]
  cases settled with
  | stays journal stays => cases verdict.symm.trans stays
  | failed journal bytes cause after large answer => cases verdict.symm.trans large
  | kept bytes reference after large answer => cases verdict.symm.trans large
  | refused journal cause refused =>
      cases passes with
      | undeclared cause journal undeclared => cases declared.symm.trans undeclared
      | valueless absent => cases absent
      | refused cause noted after written =>
          cases refusedKey.symm.trans written
          exact sameSend_of_failures keys noFailure _ _ rfl
      | small length key noted after lengthEq written small =>
          cases refusedKey.symm.trans written
      | failed stream length key cause noted middle after given lengthEq written large answer =>
          cases refusedKey.symm.trans written
      | kept stream length key reference middle after given lengthEq written large answer =>
          cases refusedKey.symm.trans written

/-- A payload that is not over the threshold is stored in the record in both ways. -/
theorem sameSend_of_small (keys : keySerializer.Computes encodeKey)
    (holds : record.value = some payload)
    (stays : Outcome.ofHeaders record.headers = .ok .passthrough)
    (declared : record.headers.declaredLength = .ok payload.size)
    (delivers : payload.data.toList <+: source.available world)
    (journal noted : Array JournalLine) :
    SameSend
      (Action.on ((Producer.checkingIn (wholeStage place keySerializer policy) sent).write record)
        (world.withJournal journal))
      (Action.on ((Producer.checkingInStreams (streamStage place keySerializer policy) sent).write
        (record.withValue (some source))) (world.withJournal noted)) := by
  have delivered : payload.data.toList <+: source.available (world.withJournal noted) := delivers
  obtain ⟨readers, read⟩ := Serializer.on_stream_of_delivers declared delivered record.topic
  let whole := Producer.checkingIn (wholeStage place keySerializer policy) sent
  let streamed := Producer.checkingInStreams (streamStage place keySerializer policy) sent
  have wroteWhole : Action.on (whole.valueSerializer.serialize record.topic record.headers
      record.value) (world.withJournal journal) =
        (.ok (some payload), world.withJournal journal) := by
    change Action.on ((Serializer.sealing .bytes).serialize _ _ _) _ = _
    rw [Serializer.serialize_sealing_of_passthrough stays, holds]
    rfl
  have wroteStream : Action.on (streamed.valueSerializer.serialize record.topic record.headers
      (some source)) (world.withJournal noted) =
        (.ok (some payload), (world.withJournal noted).withReaders readers) := by
    change Action.on ((Serializer.sealing .stream).serialize _ _ _) _ = _
    rw [Serializer.serialize_sealing_of_passthrough stays, read]
  exact whole.sameSend_write streamed keys keys rfl record (some source) wroteWhole wroteStream
    rfl rfl rfl

/-- A payload that was checked in in both ways is stored with the same reference. -/
theorem sameSend_of_kept (keys : keySerializer.Computes encodeKey)
    (noClaim : record.headers.holdsClaim = false) (noFailure : record.headers.holdsFailure = false)
    (reference : Reference) (world : World δ) (readers : Array Reader) :
    SameSend
      (Action.on ((Producer.checkingIn (wholeStage place keySerializer policy) sent).write
        (record.withOutcome (.externalized reference))) world)
      (Action.on ((Producer.checkingInStreams (streamStage place keySerializer policy) sent).write
        ((record.withValue (some source)).withOutcome (.externalized reference)))
          (world.withReaders readers)) := by
  have told : Outcome.ofHeaders ((Outcome.externalized reference).apply record.headers) =
      .ok (.externalized reference) :=
    Outcome.ofHeaders_apply_externalized noClaim noFailure reference
  let whole := Producer.checkingIn (wholeStage place keySerializer policy) sent
  let streamed := Producer.checkingInStreams (streamStage place keySerializer policy) sent
  have wroteWhole : Action.on (whole.valueSerializer.serialize record.topic
      ((Outcome.externalized reference).apply record.headers) none) world =
        (.ok (some ByteArray.empty), world) := by
    change Action.on ((Serializer.sealing .bytes).serialize _ _ _) _ = _
    rw [Serializer.serialize_sealing_of_externalized told]
    rfl
  have wroteStream : Action.on (streamed.valueSerializer.serialize record.topic
      ((Outcome.externalized reference).apply record.headers) none) (world.withReaders readers) =
        (.ok (some ByteArray.empty), world.withReaders readers) := by
    change Action.on ((Serializer.sealing .stream).serialize _ _ _) _ = _
    rw [Serializer.serialize_sealing_of_externalized told]
    rfl
  exact whole.sameSend_write streamed keys keys rfl (record.withOutcome (.externalized reference))
    none wroteWhole wroteStream rfl rfl rfl

/-- A payload over the threshold is checked in by both sends, or refused to both. -/
theorem sameSend_of_large (keys : keySerializer.Computes encodeKey)
    (noClaim : record.headers.holdsClaim = false) (noFailure : record.headers.holdsFailure = false)
    (declared : record.headers.declaredLength = .ok payload.size)
    (delivers : payload.data.toList <+: source.available world) {key : Option ByteArray}
    (large : policy.threshold < policy.sizeOf record key payload.size world.clock)
    (verdict : policy.verdict encodeKey (.ofFunction .ok) record world.clock = .large payload)
    (settled : (wholeStage place keySerializer policy).Settled encodeKey (.ofFunction .ok) record
      world next before)
    (settledStream : (streamStage place keySerializer policy).Settled
      (record.withValue (some source)) source key world nextStream other) :
    SameSend
      (Action.on ((Producer.checkingIn (wholeStage place keySerializer policy) sent).write next)
        before)
      (Action.on ((Producer.checkingInStreams (streamStage place keySerializer policy) sent).write
        nextStream) other) := by
  obtain ⟨readers, streamed⟩ := on_checkInStream_of_delivers place record.topic delivers
  rcases settled.of_large verdict with
    ⟨fault, after, journal, answer, rfl, rfl⟩ | ⟨reference, answer, rfl⟩
  · have answer : Action.on (checkIn place record.topic payload) world = (.error fault, after) :=
      answer
    rw [answer] at streamed
    rcases settledStream.of_large declared large with
      ⟨faultStream, afterStream, noted, given, rfl, rfl⟩ | ⟨reference, given, rfl⟩
    · cases streamed.symm.trans given
      exact sameSend_of_failures keys noFailure _ _ rfl
    · cases streamed.symm.trans given
  · have answer : Action.on (checkIn place record.topic payload) world = (.ok reference, before) :=
      answer
    rw [answer] at streamed
    rcases settledStream.of_large declared large with
      ⟨faultStream, afterStream, noted, given, rfl, rfl⟩ | ⟨other, given, rfl⟩
    · cases streamed.symm.trans given
    · cases streamed.symm.trans given
      exact sameSend_of_kept keys noClaim noFailure _ _ readers

end MemoryDepot

end Send

/-- Sends of a payload as a value and as a stream that delivers it agree over every memory depot,
whatever it holds: both fail or both store the same record, and the same lies in the depot
afterwards.  Whatever was stored is received alike from it in both ways. -/
theorem streams_agree (place : Cell δ MemoryDepot) (sent : Cell δ Nat) (policy : CheckInPolicy)
    {keySerializer : Serializer δ κ} {encodeKey : Encoder κ}
    (keys : keySerializer.Computes encodeKey) (record : ProducerRecord κ ByteArray)
    {payload : ByteArray} (holds : record.value = some payload)
    (noClaim : record.headers.holdsClaim = false) (noFailure : record.headers.holdsFailure = false)
    (declared : record.headers.declaredLength = .ok payload.size) (world : World δ)
    {source : StreamHandle} (delivers : payload.data.toList <+: source.available world) :
    SameSend
        (Action.on ((Producer.checkingIn (MemoryDepot.wholeStage place keySerializer policy)
          sent).send record) world)
        (Action.on ((Producer.checkingInStreams (MemoryDepot.streamStage place keySerializer policy)
          sent).send (record.withValue (some source))) world) ∧
      ∀ (topic : String) (headers : Headers) (value : Option ByteArray) (polled : World δ),
        let whole := Action.on ((Deserializer.restoring (MemoryDepot.depot place)
          .bytes).deserialize topic headers value) polled
        let streamed := Action.on ((Deserializer.restoringStream
          (MemoryDepot.depot place)).deserialize topic headers value) polled
        SameValue streamed.2 whole.1 streamed.1 := by
  refine ⟨?_, MemoryDepot.sameValue_restoring place⟩
  have stays : Outcome.ofHeaders record.headers = .ok .passthrough :=
    (Outcome.ofHeaders_eq_passthrough_iff _).mpr ⟨noClaim, noFailure⟩
  let streamStage := MemoryDepot.streamStage place keySerializer policy
  have stages : (Producer.checkingInStreams streamStage sent).interceptors =
    [streamStage.interceptor] := rfl
  have holdsStream : (record.withValue (some source)).value = some source := rfl
  obtain ⟨next, before, settled, course⟩ :=
    (MemoryDepot.wholeStage place keySerializer policy).exists_settled keys
      (MemoryDepot.computes_bytes place keySerializer policy) sent record world
  rw [course]
  cases keyEq : encodeKey record.topic record.headers record.key with
  | error fault =>
      obtain ⟨nextStream, other, passes, courseStream⟩ :=
        StreamCheckIn.exists_passes stages (record.withValue (some source)) world
      rw [courseStream]
      exact MemoryDepot.sameSend_of_keyRefused keys holds noFailure declared keyEq settled passes
  | ok key =>
      obtain ⟨nextStream, other, settledStream, courseStream⟩ :=
        streamStage.exists_settled keys sent holdsStream keyEq world
      rw [courseStream]
      have verdict : policy.verdict encodeKey (.ofFunction .ok) record world.clock =
          if policy.sizeOf record key payload.size world.clock ≤ policy.threshold then .stays
          else .large payload := by
        rw [CheckInPolicy.verdict, holds, keyEq]
        rfl
      by_cases small : policy.sizeOf record key payload.size world.clock ≤ policy.threshold
      · rw [if_pos small] at verdict
        obtain ⟨rfl, journal, rfl⟩ := settled.of_stays verdict
        obtain ⟨rfl, noted, rfl⟩ := settledStream.of_small declared small
        exact MemoryDepot.sameSend_of_small keys holds stays declared delivers journal noted
      · rw [if_neg small] at verdict
        exact MemoryDepot.sameSend_of_large keys noClaim noFailure declared delivers
          (Nat.lt_of_not_le small) verdict settled settledStream

/-- Four bytes that arrive in two chunks are stored as the whole of them is. -/
theorem streams_agree_of_chunks :
    let place : Cell (MemoryDepot × Nat) MemoryDepot := .left
    let policy : CheckInPolicy := { threshold := 0 }
    let record : ProducerRecord String ByteArray :=
      { topic := "orders", key := some "k", value := some ⟨#[1, 2, 3, 4]⟩,
        headers := Headers.empty.add Headers.lengthKey (Bytes.wordBytes 4) }
    let whole := Action.on ((Producer.checkingIn (MemoryDepot.wholeStage place .text policy)
      .right).send record) StreamExchange.chunksBegin
    let streamed := Action.on ((Producer.checkingInStreams
      (MemoryDepot.streamStage place .text policy) .right).send (record.withValue (some ⟨0⟩)))
        StreamExchange.chunksBegin
    ∃ wire, whole.1 = .ok wire ∧ streamed.1 = .ok wire ∧ wire.headers.holdsClaim ∧
      streamed.2.state = whole.2.state ∧ streamed.2.state.1.storedCount "orders" = 1 := by
  intro place policy record whole streamed
  have delivers : [1, 2, 3, 4] <+: (⟨0⟩ : StreamHandle).available StreamExchange.chunksBegin := by
    decide
  have agree : SameSend whole streamed :=
    (streams_agree place .right policy Text.computes_encoder record rfl rfl rfl (by decide)
      StreamExchange.chunksBegin delivers).1
  have claim : whole.1.toOption.map (fun wire => wire.headers.holdsClaim) = some true := by
    decide +kernel
  have once : streamed.2.state.1.storedCount "orders" = 1 := by decide +kernel
  obtain ⟨wire, stored, refers⟩ := Option.map_eq_some_iff.mp claim
  exact ⟨wire, eq_ok_of_toOption stored, eq_ok_of_toOption (agree.stored.trans stored), refers,
    agree.state, once⟩

end PayloadDepot
