import PayloadDepot.Proofs.Inbound.Poll
import PayloadDepot.Proofs.Outbound.Send

/-!
# Exchanges over a memory depot

An exchange is a producer that checks values in and a consumer that checks them
out of the same memory depot.  Whatever is sent, polled or closed, its depot is
led through a run of its own calls.
-/

namespace PayloadDepot

variable {δ κ ν : Type}

/-- A producer and a consumer with the same codecs over one memory depot. -/
structure Exchange (δ κ ν : Type) where
  place : Cell δ MemoryDepot
  sent : Cell δ Nat
  lawful : place.Lawful
  apart : place.Apart sent
  keyCodec : PureCodec δ κ
  valueCodec : PureCodec δ ν
  policy : CheckInPolicy

namespace Exchange

def stage (exchange : Exchange δ κ ν) : CheckIn δ κ ν where
  depot := MemoryDepot.depot exchange.place
  keySerializer := exchange.keyCodec.serializer
  valueSerializer := exchange.valueCodec.serializer
  policy := exchange.policy

def producer (exchange : Exchange δ κ ν) : Producer δ κ ν :=
  .checkingIn exchange.stage exchange.sent

def consumer (exchange : Exchange δ κ ν) : Consumer δ κ ν :=
  .checkingOut (MemoryDepot.depot exchange.place) exchange.keyCodec.deserializer
    exchange.valueCodec.deserializer

/-- What the depot of an exchange holds in a world. -/
def held (exchange : Exchange δ κ ν) (world : World δ) : MemoryDepot :=
  exchange.place.read world.state

/-- What polling a stored record gives while the depot holds something. -/
def polled (exchange : Exchange δ κ ν) (depot : MemoryDepot) (wire : WireRecord) :
    Except Fault (ConsumerRecord κ ν) :=
  wire.decoded exchange.keyCodec.decode (exchange.valueCodec.decode.restored depot)

variable (exchange : Exchange δ κ ν)

theorem on_poll (fetched : List WireRecord) (world : World δ) :
    ∃ journal, Action.on (exchange.consumer.poll fetched) world =
      ((fetched.mapM (exchange.polled (exchange.held world))).map Batch.mk,
        world.withJournal journal) :=
  Consumer.on_poll exchange.keyCodec.reads exchange.valueCodec.reads fetched world

theorem exists_settled (record : ProducerRecord κ ν) (world : World δ) :
    ∃ next before, CheckIn.Settled exchange.stage exchange.keyCodec.encode
        exchange.valueCodec.encode record world next before ∧
      Action.on (exchange.producer.send record) world =
        Action.on (exchange.producer.write next) before :=
  CheckIn.exists_settled exchange.keyCodec.writes exchange.valueCodec.writes exchange.sent record
    world

variable {exchange} {record next : ProducerRecord κ ν} {world before after : World δ}
  {wire : WireRecord}

theorem of_write_ok
    (wrote : Action.on (exchange.producer.write next) before = (.ok wire, after)) :
    ∃ key value, exchange.keyCodec.encode next.topic next.headers next.key = .ok key ∧
      exchange.valueCodec.encode.sealed next.topic next.headers next.value = .ok value ∧
      wire = next.stored (exchange.sent.read before.state) before.clock key value ∧
      exchange.held after = exchange.held before := by
  obtain ⟨key, value, keyEq, valueEq, stored, rfl⟩ :=
    Producer.of_write_ok exchange.keyCodec.writes exchange.valueCodec.writes.sealing wrote
  exact ⟨key, value, keyEq, valueEq, stored, exchange.apart.read_left _ _⟩

/-- A record that reports a failure is not written. -/
theorem write_ne_ok {description : String}
    (told : Outcome.ofHeaders next.headers = .ok (.failed description)) :
    Action.on (exchange.producer.write next) before ≠ (.ok wire, after) := by
  intro wrote
  have keys : exchange.stage.keySerializer.Computes exchange.keyCodec.encode :=
    exchange.keyCodec.writes
  have values : exchange.stage.valueSerializer.Computes exchange.valueCodec.encode :=
    exchange.valueCodec.writes
  obtain ⟨fault, failed, -⟩ := CheckIn.write_of_failed keys values exchange.sent told before
  cases failed.symm.trans wrote

section Leads

open MemoryDepot

theorem leads_write (exchange : Exchange δ κ ν) (next : ProducerRecord κ ν) (before : World δ) :
    Leads exchange.place before (Action.on (exchange.producer.write next) before).2 := by
  rcases wrote : Action.on (exchange.producer.write next) before with ⟨fault | wire, after⟩
  · obtain ⟨rfl, -⟩ :=
      Producer.of_write_error exchange.keyCodec.writes exchange.valueCodec.writes.sealing wrote
    exact .refl
  · obtain ⟨key, value, -, -, -, rfl⟩ :=
      Producer.of_write_ok exchange.keyCodec.writes exchange.valueCodec.writes.sealing wrote
    exact .single (.elsewhere (exchange.apart.read_left _ _) ⟨rfl, Nat.le_refl _⟩)

theorem leads_settled
    (settled : CheckIn.Settled exchange.stage exchange.keyCodec.encode
      exchange.valueCodec.encode record world next before) :
    Leads exchange.place world before := by
  have noted (journal : Array JournalLine) (middle : World δ) :
      Step exchange.place middle (middle.withJournal journal) :=
    .elsewhere rfl ⟨rfl, Nat.le_refl _⟩
  have asked {payload : ByteArray} {outcome : Except Fault Reference} {answered : World δ}
      (answer : Action.on (exchange.stage.depot.checkIn record.topic payload) world =
        (outcome, answered)) : Step exchange.place world answered := by
    have step : Step exchange.place world _ := .checkIn record.topic payload
    rw [show Action.on (checkIn exchange.place record.topic payload) world = _ from answer] at step
    exact step
  cases settled with
  | stays journal verdict => exact .single (noted journal world)
  | refused journal fault verdict => exact .single (noted journal world)
  | failed journal payload fault answered verdict answer =>
      exact (Relation.ReflTransGen.single (asked answer)).tail (noted journal answered)
  | kept payload reference answered verdict answer => exact .single (asked answer)

theorem leads_send (exchange : Exchange δ κ ν) (record : ProducerRecord κ ν) (world : World δ) :
    Leads exchange.place world (Action.on (exchange.producer.send record) world).2 := by
  obtain ⟨next, before, settled, course⟩ := exchange.exists_settled record world
  rw [course]
  exact (leads_settled settled).trans (leads_write exchange next before)

theorem leads_poll (exchange : Exchange δ κ ν) (fetched : List WireRecord) (world : World δ) :
    Leads exchange.place world (Action.on (exchange.consumer.poll fetched) world).2 := by
  obtain ⟨journal, polled⟩ := exchange.on_poll fetched world
  rw [polled]
  exact .single (.elsewhere rfl ⟨rfl, Nat.le_refl _⟩)

end Leads

/-- How a record was sent: with its value, or after its payload was checked in. -/
inductive Sent (exchange : Exchange δ κ ν) (record : ProducerRecord κ ν) (wire : WireRecord)
    (world after : World δ) : Prop
  | stays (headers : wire.headers = record.headers)
      (value : exchange.valueCodec.encode.sealed record.topic record.headers record.value =
        .ok wire.value)
      (held : exchange.held after = exchange.held world)
  | kept (payload : ByteArray) (reference : Reference) (middle : World δ)
      (headers : wire.headers = (Outcome.externalized reference).apply record.headers)
      (encoded : exchange.valueCodec.encode record.topic record.headers record.value =
        .ok (some payload))
      (value : exchange.valueCodec.encode.sealed record.topic wire.headers none = .ok wire.value)
      (answer : Action.on (MemoryDepot.checkIn exchange.place record.topic payload) world =
        (.ok reference, middle))
      (goesOn : MemoryDepot.GoesOn after middle)
      (held : exchange.held after = exchange.held middle)

/-- Every send that succeeds is one of the two, and its key was written beside the headers that are
stored. -/
theorem of_send_ok (sent : Action.on (exchange.producer.send record) world = (.ok wire, after)) :
    wire.topic = record.topic ∧
      exchange.keyCodec.encode record.topic wire.headers record.key = .ok wire.key ∧
      Sent exchange record wire world after := by
  obtain ⟨next, before, settled, course⟩ := exchange.exists_settled record world
  have wrote := course.symm.trans sent
  have goesOn : MemoryDepot.GoesOn after before := by
    have leads := leads_write exchange next before
    rw [wrote] at leads
    exact leads.goesOn exchange.lawful
  obtain ⟨key, value, keyEq, valueEq, rfl, held⟩ := of_write_ok wrote
  cases settled with
  | stays journal verdict => exact ⟨rfl, keyEq, .stays rfl valueEq held⟩
  | refused journal fault verdict =>
      obtain ⟨description, told⟩ := Outcome.ofHeaders_apply_failed record.headers
        (fault.report (record.attempted .whole))
      exact absurd wrote (write_ne_ok told)
  | failed journal payload fault answered verdict answer =>
      obtain ⟨description, told⟩ := Outcome.ofHeaders_apply_failed record.headers
        (fault.report (record.attempted .whole))
      exact absurd wrote (write_ne_ok told)
  | kept payload reference _ verdict answer =>
      exact ⟨rfl, keyEq, .kept payload reference before rfl (CheckInPolicy.encode_of_large verdict)
        valueEq answer goesOn held⟩

/-- An exchange of texts whose state is a depot and the number of records sent. -/
def ofTexts (threshold : Nat) : Exchange (MemoryDepot × Nat) String String where
  place := .left
  sent := .right
  lawful := Cell.lawful_left
  apart := Cell.apart_left_right
  keyCodec := .text
  valueCodec := .text
  policy := { threshold := threshold }

/-- The world before an exchange of texts, whose depot may create containers. -/
def textsBegin : World (MemoryDepot × Nat) :=
  .initial 0 .empty ({ createsContainers := true }, 0)

end Exchange

end PayloadDepot
