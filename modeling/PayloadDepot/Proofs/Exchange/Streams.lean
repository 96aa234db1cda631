import PayloadDepot.Proofs.Host.BlobName
import PayloadDepot.Proofs.Inbound.Poll
import PayloadDepot.Proofs.Outbound.StreamSend
import PayloadDepot.Proofs.Wire.DeclaredLength

/-!
# Streams through a memory depot

A stream is sent exactly if it has as many bytes available as its record
declares, whether it is checked in or written into the record.  What is received
is a stream of just these bytes, and the reader of the sender stands behind them.
A stream that is too short leaves nothing in the depot.
-/

namespace PayloadDepot

variable {δ : Type}

/-- A producer and a consumer of streams over one memory depot, with texts for keys. -/
structure StreamExchange (δ : Type) where
  place : Cell δ MemoryDepot
  sent : Cell δ Nat
  lawful : place.Lawful
  apart : place.Apart sent
  policy : CheckInPolicy

namespace StreamExchange

def stage (exchange : StreamExchange δ) (depot : Depot δ) : StreamCheckIn δ String where
  depot := depot
  keySerializer := .text
  policy := exchange.policy

def producerOver (exchange : StreamExchange δ) (depot : Depot δ) :
    Producer δ String StreamHandle :=
  .checkingInStreams (exchange.stage depot) exchange.sent

def producer (exchange : StreamExchange δ) : Producer δ String StreamHandle :=
  exchange.producerOver (MemoryDepot.depot exchange.place)

def consumer (exchange : StreamExchange δ) : Consumer δ String StreamHandle where
  keyDeserializer := .text
  valueDeserializer := .restoringStream (MemoryDepot.depot exchange.place)

def held (exchange : StreamExchange δ) (world : World δ) : MemoryDepot :=
  exchange.place.read world.state

/-- The payload of a stored record lies in the record or under the reference that it tells. -/
def Restorable (depot : MemoryDepot) (wire : WireRecord) (payload : ByteArray) : Prop :=
  Outcome.ofHeaders wire.headers = .ok .passthrough ∧ wire.value = some payload ∨
    ∃ reference, Outcome.ofHeaders wire.headers = .ok (.externalized reference) ∧
      depot.find reference = .ok payload

open MemoryDepot

variable {exchange : StreamExchange δ} {record : ProducerRecord String StreamHandle}
  {source : StreamHandle} {world : World δ}

section Send

theorem exists_settled (exchange : StreamExchange δ) (depot : Depot δ)
    (holds : record.value = some source) (world : World δ) :
    ∃ next before, StreamCheckIn.Settled (exchange.stage depot) record source
        (record.key.map String.toUTF8) world next before ∧
      Action.on ((exchange.producerOver depot).send record) world =
        Action.on ((exchange.producerOver depot).write next) before :=
  StreamCheckIn.exists_settled Text.computes_encoder exchange.sent holds rfl world

section Write

variable {depot : Depot δ} {next : ProducerRecord String StreamHandle} {before after : World δ}

theorem on_write_of_ok {value : Option ByteArray}
    (ran : Action.on ((Serializer.sealing .stream).serialize next.topic next.headers next.value)
      before = (.ok value, after)) :
    Action.on ((exchange.producerOver depot).write next) before =
      (.ok (next.stored (exchange.sent.read after.state) after.clock
          (next.key.map String.toUTF8) value),
        after.withState (exchange.sent.write (exchange.sent.read after.state + 1)
          after.state)) :=
  Producer.on_write_of_encoded
    ((ProducerRecord.on_encode_of_key Text.computes_encoder rfl _ _).trans
      (Action.on_map_of_ok ran _))

theorem on_write_of_error {fault : Fault}
    (ran : Action.on ((Serializer.sealing .stream).serialize next.topic next.headers next.value)
      before = (.error fault, after)) :
    Action.on ((exchange.producerOver depot).write next) before = (.error fault, after) :=
  Producer.on_write_of_refused
    ((ProducerRecord.on_encode_of_key Text.computes_encoder rfl _ _).trans
      (Action.on_map_of_error ran _))

theorem on_write_of_failed {description : String}
    (told : Outcome.ofHeaders next.headers = .ok (.failed description)) (before : World δ) :
    Action.on ((exchange.producerOver depot).write next) before =
      (.error (.externalization description), before) := by
  refine on_write_of_error ?_
  rw [Serializer.serialize_sealing_of_failed told]
  rfl

theorem on_write_of_externalized {reference : Reference}
    (told : Outcome.ofHeaders next.headers = .ok (.externalized reference)) (before : World δ) :
    Action.on ((exchange.producerOver depot).write next) before =
      (.ok (next.stored (exchange.sent.read before.state) before.clock
          (next.key.map String.toUTF8) (some ByteArray.empty)),
        before.withState (exchange.sent.write (exchange.sent.read before.state + 1)
          before.state)) := by
  refine on_write_of_ok ?_
  rw [Serializer.serialize_sealing_of_externalized told]
  rfl

end Write

/-- A record whose declared length cannot be read is refused over every depot, and nothing but the
journal has changed. -/
theorem on_send_of_undeclared (holds : record.value = some source)
    (stays : Outcome.ofHeaders record.headers = .ok .passthrough) {fault : Fault}
    (declared : record.headers.declaredLength = .error fault) (depot : Depot δ)
    (world : World δ) :
    ∃ journal, Action.on ((exchange.producerOver depot).send record) world =
      (.error fault, world.withJournal journal) := by
  obtain ⟨next, before, settled, course⟩ :=
    exchange.exists_settled depot holds world
  rw [course]
  cases settled with
  | undeclared journal other otherDeclared =>
      refine ⟨journal, on_write_of_error ?_⟩
      rw [Serializer.serialize_sealing_of_passthrough stays, holds]
      exact Serializer.on_stream_of_undeclared declared
  | stays journal length lengthDeclared small =>
      rw [declared] at lengthDeclared
      cases lengthDeclared
  | failed journal length other after lengthDeclared large answer =>
      rw [declared] at lengthDeclared
      cases lengthDeclared
  | kept length reference after lengthDeclared large answer =>
      rw [declared] at lengthDeclared
      cases lengthDeclared

variable {length : Nat}

theorem on_checkInStream_of_le (exchange : StreamExchange δ)
    (creates : (exchange.held world).createsContainers = true)
    (enough : length ≤ (source.available world).length) (topic : String) :
    ∃ payload readers reference state journal,
      payload.data.toList = (source.available world).take length ∧
      source.items (world.withReaders readers) = Item.behind length (source.items world) ∧
      Action.on (checkIn exchange.place topic payload) (world.withReaders readers) =
        (.ok reference,
          (world.withReaders readers).progressed state journal (world.namesIssued + 1)) ∧
      Action.on (checkInStream exchange.place topic source length) world =
        (.ok reference,
          (world.withReaders readers).progressed state journal (world.namesIssued + 1)) := by
  obtain ⟨payload, readers, read, taken, left⟩ := Depot.on_readDeclared_of_le enough
  obtain ⟨reference, state, journal, kept⟩ :=
    on_checkIn_of_creates exchange.lawful
      (show (exchange.place.read (world.withReaders readers).state).createsContainers = true
        from creates) topic payload
  exact ⟨payload, readers, reference, state, journal, taken, left, kept,
    (Action.on_bind_of_ok read _).trans kept⟩

theorem on_checkInStream_of_lt (exchange : StreamExchange δ)
    (short : (source.available world).length < length) (topic : String) :
    ∃ fault readers, Action.on (checkInStream exchange.place topic source length) world =
      (.error fault, world.withReaders readers) := by
  obtain ⟨fault, readers, read⟩ := Depot.on_readDeclared_of_lt short
  exact ⟨fault, readers, Action.on_bind_of_error read _⟩

/-- What is known of a stream that was sent. -/
structure Shipped (exchange : StreamExchange δ) (record : ProducerRecord String StreamHandle)
    (source : StreamHandle) (length : Nat) (world after : World δ) (wire : WireRecord) :
    Prop where
  key : wire.key = record.key.map String.toUTF8
  left : source.items after = Item.behind length (source.items world)
  leads : Leads exchange.place world after
  restorable : ∃ payload : ByteArray,
    payload.data.toList = (source.available world).take length ∧
      (Text.IsComponent record.topic → Intact exchange.place world → ProperNames after →
        Restorable (exchange.held after) wire payload)

theorem exists_shipped_of_stays (holds : record.value = some source)
    (stays : Outcome.ofHeaders record.headers = .ok .passthrough)
    (declared : record.headers.declaredLength = .ok length)
    (enough : length ≤ (source.available world).length) (journal : Array JournalLine) :
    ∃ wire after, Action.on (exchange.producer.write record) (world.withJournal journal) =
        (.ok wire, after) ∧ exchange.Shipped record source length world after wire := by
  have stillEnough : length ≤ (source.available (world.withJournal journal)).length := enough
  obtain ⟨payload, readers, read, taken, left⟩ := Serializer.on_stream_of_le declared stillEnough
  have sealed : Action.on ((Serializer.sealing .stream).serialize record.topic record.headers
      record.value) (world.withJournal journal) =
        (.ok (some payload), (world.withJournal journal).withReaders readers) := by
    rw [Serializer.serialize_sealing_of_passthrough stays, holds]
    exact read
  refine ⟨_, _, on_write_of_ok sealed, rfl, left, ?_, payload, taken, ?_⟩
  · exact .single (.elsewhere (exchange.apart.read_left _ _) ⟨rfl, Nat.le_refl _⟩)
  · exact fun _ _ _ => .inl ⟨stays, rfl⟩

/-- The stream is read before the depot looks for a container, so the depot is still the one of the
world before when the payload is checked in. -/
theorem exists_shipped_of_kept {reference : Reference} {middle : World δ}
    (told : Outcome.ofHeaders ((Outcome.externalized reference).apply record.headers) =
      .ok (.externalized reference))
    (creates : (exchange.held world).createsContainers = true)
    (enough : length ≤ (source.available world).length)
    (answer : Action.on (checkInStream exchange.place record.topic source length) world =
      (.ok reference, middle)) :
    ∃ wire after, Action.on (exchange.producer.write
        (record.withOutcome (.externalized reference))) middle = (.ok wire, after) ∧
      exchange.Shipped record source length world after wire := by
  obtain ⟨payload, readers, _, state, journal, taken, left, checkedIn, kept⟩ :=
    on_checkInStream_of_le exchange creates enough record.topic
  cases kept.symm.trans answer
  have read : Step exchange.place world (world.withReaders readers) :=
    .elsewhere rfl ⟨rfl, Nat.le_refl _⟩
  have step : Step exchange.place (world.withReaders readers) _ := .checkIn record.topic payload
  rw [checkedIn] at step
  refine ⟨_, _, on_write_of_externalized told _, rfl, left, ?_, payload, taken, ?_⟩
  · refine ((Relation.ReflTransGen.single read).tail step).tail ?_
    exact .elsewhere (exchange.apart.read_left _ _) ⟨rfl, Nat.le_refl _⟩
  · intro topicOk intact proper
    have properStored : ProperNames ((world.withReaders readers).progressed state journal
      (world.namesIssued + 1)) := proper.earlier ⟨rfl, Nat.le_refl _⟩
    have intactRead : Intact exchange.place (world.withReaders readers) :=
      (preserves_step exchange.lawful intact read
        (properStored.earlier ⟨rfl, Nat.le_succ _⟩)).intact
    have found := find_of_checkIn exchange.lawful intactRead topicOk checkedIn properStored
    refine .inr ⟨reference, told, ?_⟩
    rw [held, World.withState_state, exchange.apart.read_left]
    exact found

/-- A stream with enough bytes is sent, from the record or through the depot. -/
theorem on_send_of_le (creates : (exchange.held world).createsContainers = true)
    (holds : record.value = some source) (noClaim : record.headers.holdsClaim = false)
    (noFailure : record.headers.holdsFailure = false)
    (declared : record.headers.declaredLength = .ok length)
    (enough : length ≤ (source.available world).length) :
    ∃ wire after, Action.on (exchange.producer.send record) world = (.ok wire, after) ∧
      exchange.Shipped record source length world after wire := by
  have stays : Outcome.ofHeaders record.headers = .ok .passthrough :=
    (Outcome.ofHeaders_eq_passthrough_iff _).mpr ⟨noClaim, noFailure⟩
  obtain ⟨next, before, settled, course⟩ := exchange.exists_settled
    (MemoryDepot.depot exchange.place) holds world
  rw [producer, course]
  cases settled with
  | undeclared journal fault refused =>
      rw [declared] at refused
      cases refused
  | stays journal other otherDeclared small =>
      exact exists_shipped_of_stays holds stays declared enough journal
  | failed journal other fault answered otherDeclared large answer =>
      obtain rfl : length = other := Except.ok.inj (declared.symm.trans otherDeclared)
      obtain ⟨payload, readers, reference, state, journal, -, -, -, kept⟩ :=
        on_checkInStream_of_le exchange creates enough record.topic
      cases kept.symm.trans answer
  | kept other reference answered otherDeclared large answer =>
      obtain rfl : length = other := Except.ok.inj (declared.symm.trans otherDeclared)
      have told := Outcome.ofHeaders_apply_externalized noClaim noFailure reference
      exact exists_shipped_of_kept told creates enough answer

/-- A stream that is too short is not sent, and nothing of it is left in the depot. -/
theorem on_send_of_lt (exchange : StreamExchange δ) (holds : record.value = some source)
    (stays : Outcome.ofHeaders record.headers = .ok .passthrough)
    (declared : record.headers.declaredLength = .ok length)
    (short : (source.available world).length < length) :
    ∃ fault after, Action.on (exchange.producer.send record) world = (.error fault, after) ∧
      exchange.held after = exchange.held world := by
  obtain ⟨next, before, settled, course⟩ := exchange.exists_settled
    (MemoryDepot.depot exchange.place) holds world
  cases settled with
  | undeclared journal fault refused =>
      rw [declared] at refused
      cases refused
  | stays journal other otherDeclared small =>
      have stillShort : (source.available (world.withJournal journal)).length < length := short
      obtain ⟨fault, readers, read⟩ := Serializer.on_stream_of_lt declared stillShort
      have sealed : Action.on ((Serializer.sealing .stream).serialize record.topic record.headers
          record.value) (world.withJournal journal) =
            (.error fault, (world.withJournal journal).withReaders readers) := by
        rw [Serializer.serialize_sealing_of_passthrough stays, holds]
        exact read
      exact ⟨fault, _, course.trans (on_write_of_error sealed), rfl⟩
  | failed journal other fault answered otherDeclared large answer =>
      obtain rfl : length = other := Except.ok.inj (declared.symm.trans otherDeclared)
      obtain ⟨_, readers, refused⟩ := on_checkInStream_of_lt exchange short record.topic
      cases refused.symm.trans answer
      obtain ⟨description, told⟩ := Outcome.ofHeaders_apply_failed record.headers
        (fault.report (record.attempted .streamed))
      exact ⟨_, _, course.trans (on_write_of_failed told _), rfl⟩
  | kept other reference answered otherDeclared large answer =>
      obtain rfl : length = other := Except.ok.inj (declared.symm.trans otherDeclared)
      obtain ⟨fault, readers, refused⟩ := on_checkInStream_of_lt exchange short record.topic
      cases refused.symm.trans answer

end Send

section Poll

variable {wire : WireRecord} {payload : ByteArray}

theorem on_restoringStream (restorable : Restorable (exchange.held world) wire payload) :
    ∃ stream polled, Action.on ((Deserializer.restoringStream
        (MemoryDepot.depot exchange.place)).deserialize wire.topic wire.headers wire.value) world =
        (.ok (some stream), polled) ∧
      stream.items polled = payload.data.toList.map .byte := by
  change ∃ stream polled, Action.on (Action.ofExcept (Outcome.ofHeaders wire.headers) >>= _)
    world = _ ∧ _
  rw [Action.on_ofExcept_bind]
  rcases restorable with ⟨stays, inside⟩ | ⟨reference, told, found⟩
  · obtain ⟨stream, readers, opened, delivers⟩ := StreamHandle.on_ofBytes payload world
    refine ⟨stream, _, ?_, delivers⟩
    rw [stays, inside]
    dsimp only
    rw [Action.on_lift_bind, opened]
    rfl
  · let noted := world.withJournal (world.journal.push
      ⟨.trace, s!"received streaming claim check: topic={wire.topic}, ref={reference.text}"⟩)
    obtain ⟨stream, readers, opened, delivers⟩ := StreamHandle.on_ofBytes payload noted
    have checkedOut : Action.on (checkOut exchange.place reference) noted =
        (.ok payload, noted) := by
      rw [on_checkOut]
      exact congrArg (·, noted) found
    have streamed : Action.on ((MemoryDepot.depot exchange.place).checkOutStream reference)
        noted = (.ok stream, noted.withReaders readers) := by
      refine (Action.on_bind_of_ok checkedOut _).trans ?_
      rw [Action.on_lift, opened]
    refine ⟨stream, _, ?_, delivers⟩
    rw [told]
    dsimp only
    rw [Action.on_lift_bind, World.on_log]
    exact Action.on_bind_of_ok streamed _

/-- A record whose payload can be restored is received with a stream of its bytes. -/
theorem on_poll_of_restorable (exchange : StreamExchange δ) (key : Option String)
    (keyEq : wire.key = key.map String.toUTF8)
    (restorable : Restorable (exchange.held world) wire payload) :
    ∃ stream polled, Action.on (exchange.consumer.poll [wire]) world =
        (.ok ⟨[wire.received key (some stream)]⟩, polled) ∧
      stream.items polled = payload.data.toList.map .byte := by
  obtain ⟨stream, polled, restored, delivers⟩ := on_restoringStream restorable
  refine ⟨stream, polled, ?_, delivers⟩
  have readKey : Text.decoder wire.topic wire.headers wire.key = .ok key :=
    Text.decoder_undoes_encoder.undo (congrArg Except.ok keyEq.symm)
  have decoded : Action.on (exchange.consumer.decode wire) world =
      (.ok (wire.received key (some stream)), polled) := by
    rw [Consumer.decode, consumer, Text.computes_decoder, Action.on_ofExcept_bind, readKey]
    exact Action.on_bind_of_ok restored _
  rw [Consumer.poll, List.mapM_cons, List.mapM_nil]
  refine (Action.on_bind_of_ok ((Action.on_bind_of_ok decoded _).trans rfl) _).trans rfl

theorem Restorable.later {depot later : MemoryDepot} (keeps : later.Keeps depot)
    (restorable : Restorable depot wire payload) : Restorable later wire payload := by
  rcases restorable with inside | ⟨reference, told, found⟩
  · exact .inl inside
  · exact .inr ⟨reference, told, keeps _ _ found⟩

end Poll

/-- A record is refused for a breach of the contract over every depot, and nothing but the journal
changes: neither a depot was asked nor a byte read. -/
def Refuses (exchange : StreamExchange δ) (record : ProducerRecord String StreamHandle)
    (world : World δ) : Prop :=
  ∃ breach, ∀ depot : Depot δ, ∃ journal,
    Action.on ((exchange.producerOver depot).send record) world =
      (.error (.contract breach), world.withJournal journal)

/-- Whenever a stored record is polled after a world, it is received with a key and a stream that
delivers some bytes and ends. -/
def Returns (exchange : StreamExchange δ) (after : World δ) (wire : WireRecord)
    (key : Option String) (bytes : List UInt8) : Prop :=
  ∀ later, Leads exchange.place after later → ProperNames later →
    ∃ stream polled, Action.on (exchange.consumer.poll [wire]) later =
        (.ok ⟨[wire.received key (some stream)]⟩, polled) ∧
      stream.items polled = bytes.map .byte

theorem Shipped.returns {length : Nat} {after : World δ} {wire : WireRecord}
    (shipped : exchange.Shipped record source length world after wire)
    (topicOk : Text.IsComponent record.topic) (intact : Intact exchange.place world) :
    exchange.Returns after wire record.key ((source.available world).take length) := by
  intro later leads proper
  have properAfter : ProperNames after := proper.earlier (leads.goesOn exchange.lawful)
  have intactAfter : Intact exchange.place after :=
    (preserves_leads exchange.lawful intact shipped.leads properAfter).intact
  have kept := preserves_leads exchange.lawful intactAfter leads proper
  obtain ⟨payload, taken, restorable⟩ := shipped.restorable
  rw [← taken]
  exact on_poll_of_restorable exchange record.key shipped.key
    ((restorable topicOk intact properAfter).later kept.keeps)

/-- A record of a stream is refused unless it declares a length.  If it does, it is sent exactly if
that many bytes are available: they are received as a stream whenever the record is polled, and the
reader is left behind them.  Nothing is stored for a record that is not sent. -/
theorem send_streams_declared (exchange : StreamExchange δ) {start world : World δ}
    (fresh : exchange.held start = { createsContainers := true })
    (leads : Leads exchange.place start world) (proper : ProperNames world)
    {record : ProducerRecord String StreamHandle} {source : StreamHandle}
    (holds : record.value = some source) (topicOk : Text.IsComponent record.topic)
    (noClaim : record.headers.holdsClaim = false)
    (noFailure : record.headers.holdsFailure = false) :
    let ran := Action.on (exchange.producer.send record) world
    ((¬ ∃ length, record.headers.Declares length) → exchange.Refuses record world) ∧
      (∀ length, record.headers.Declares length →
        ((∃ wire, ran.1 = .ok wire) ↔ length ≤ (source.available world).length) ∧
        (∀ wire, ran.1 = .ok wire →
          exchange.Returns ran.2 wire record.key ((source.available world).take length) ∧
            source.items ran.2 = Item.behind length (source.items world)) ∧
        (∀ fault, ran.1 = .error fault → exchange.held ran.2 = exchange.held world)) := by
  intro ran
  have stays : Outcome.ofHeaders record.headers = .ok .passthrough :=
    (Outcome.ofHeaders_eq_passthrough_iff _).mpr ⟨noClaim, noFailure⟩
  have before : Preserves exchange.place world start :=
    preserves_leads exchange.lawful (intact_of_empty fresh) leads proper
  have creates : (exchange.held world).createsContainers = true := by
    rw [held, before.creates]
    exact congrArg createsContainers fresh
  refine ⟨fun undeclared => ?_, fun length declares => ?_⟩
  · cases declared : record.headers.declaredLength with
    | ok length => exact absurd ⟨length, Headers.declaredLength_eq_ok_iff.mp declared⟩ undeclared
    | error fault =>
        obtain ⟨breach, rfl⟩ := Headers.exists_breach declared
        exact ⟨breach, fun depot => on_send_of_undeclared holds stays declared depot world⟩
  · have declared := Headers.declaredLength_eq_ok_iff.mpr declares
    by_cases enough : length ≤ (source.available world).length
    · obtain ⟨sent, after, course, shipped⟩ :=
        on_send_of_le creates holds noClaim noFailure declared enough
      have ranEq : ran = (.ok sent, after) := course
      rw [ranEq]
      refine ⟨⟨fun _ => enough, fun _ => ⟨sent, rfl⟩⟩, fun wire same => ?_, fun fault same => ?_⟩
      · cases same
        exact ⟨shipped.returns topicOk before.intact, shipped.left⟩
      · cases same
    · obtain ⟨fault, after, course, untouched⟩ :=
        on_send_of_lt exchange holds stays declared (Nat.lt_of_not_le enough)
      have ranEq : ran = (.error fault, after) := course
      rw [ranEq]
      refine ⟨⟨fun sent => ?_, fun le => absurd le enough⟩, fun wire same => ?_,
        fun _ _ => untouched⟩
      · obtain ⟨wire, same⟩ := sent
        cases same
      · cases same

/-- An exchange of streams whose state is a depot and the number of records sent. -/
def ofThreshold (threshold : Nat) : StreamExchange (MemoryDepot × Nat) where
  place := .left
  sent := .right
  lawful := Cell.lawful_left
  apart := Cell.apart_left_right
  policy := { threshold := threshold }

/-- A world with one reader, which delivers two chunks and fails before and behind the second. -/
def chunksBegin : World (MemoryDepot × Nat) :=
  { World.initial 0 .empty ({ createsContainers := true }, 0) with
    readers := #[⟨[.chunk ⟨#[1, 2]⟩, .fault ⟨.interrupted, "interrupted", []⟩, .chunk ⟨#[3, 4, 5]⟩,
      .fault ⟨.other, "reset", []⟩]⟩] }

/-- Four bytes of five are checked in, and the last one is left in front of the failure. -/
theorem send_streams_declared_of_chunks :
    let exchange := ofThreshold 0
    let source : StreamHandle := ⟨0⟩
    let record : ProducerRecord String StreamHandle :=
      { topic := "orders", key := some "k", value := some source,
        headers := Headers.empty.add Headers.lengthKey (Bytes.wordBytes 4) }
    let ran := Action.on (exchange.producer.send record) chunksBegin
    exchange.held chunksBegin = { createsContainers := true } ∧ ProperNames chunksBegin ∧
      Text.IsComponent record.topic ∧ record.headers.holdsClaim = false ∧
      record.headers.holdsFailure = false ∧ record.headers.Declares 4 ∧ ran.2.namesIssued = 1 ∧
      ∃ wire, ran.1 = .ok wire ∧ exchange.Returns ran.2 wire (some "k") [1, 2, 3, 4] ∧
        source.items ran.2 = [.byte 5, .fault ⟨.other, "reset", []⟩] := by
  intro exchange source record ran
  have proper : ProperNames chunksBegin := properNames_of_series rfl (by decide)
  have topicOk : Text.IsComponent record.topic := by decide
  have declares : record.headers.Declares 4 :=
    ⟨⟨Bytes.wordBytes 4, by decide, rfl, by decide⟩, by decide⟩
  have holds : record.value = some source := rfl
  obtain ⟨-, streams⟩ :=
    send_streams_declared exchange rfl .refl proper holds topicOk rfl rfl
  obtain ⟨sent, received, -⟩ := streams 4 declares
  obtain ⟨wire, ranOk⟩ := sent.mpr (by decide)
  obtain ⟨returns, left⟩ := received wire ranOk
  refine ⟨rfl, proper, topicOk, rfl, rfl, declares, by decide +kernel, wire, ranOk, returns, ?_⟩
  exact left

end StreamExchange

end PayloadDepot
