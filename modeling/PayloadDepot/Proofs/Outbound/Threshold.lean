import PayloadDepot.Proofs.Outbound.Ledgered
import PayloadDepot.Proofs.Outbound.StreamSend
import PayloadDepot.Rehearsal.Codec
import PayloadDepot.Rehearsal.Depot

/-!
# The threshold

The depot is asked for a payload exactly if the record is over the threshold with
it, by what the serializers give to the interceptor.  What is stored is written
later, so it can only be as small as that if the serializers give bytes of the
same size again, and nothing in place of a value that is absent, which the
interceptor does not look at.  If they do, a stored record over the threshold has
no value or a reference in its place, also if its value is a stream and is
written in the length that was declared.
-/

namespace PayloadDepot

variable {δ κ ν τ : Type}

namespace Serializer

/-- In some world, a serializer gives these bytes. -/
def Gives (serializer : Serializer δ ν) (topic : String) (headers : Headers) (value : Option ν)
    (bytes : Option ByteArray) : Prop :=
  ∃ world, (Action.on (serializer.serialize topic headers value) world).1 = .ok bytes

/-- Whatever else two serializers do, what the second one gives has the size of what the first one
gives for the same value. -/
def Matches (serializer other : Serializer δ ν) : Prop :=
  ∀ {topic headers value first second}, serializer.Gives topic headers value first →
    other.Gives topic headers value second →
      second.map ByteArray.size = first.map ByteArray.size

/-- A serializer that gives nothing for nothing. -/
def KeepsNothing (serializer : Serializer δ ν) : Prop :=
  ∀ {topic headers bytes}, serializer.Gives topic headers none bytes → bytes = none

/-- A serializer of streams that gives nothing, or for a stream as many bytes as are declared. -/
def KeepsLength (serializer : Serializer δ StreamHandle) : Prop :=
  ∀ {topic headers value bytes}, serializer.Gives topic headers value bytes →
    bytes = none ∨ value ≠ none ∧
      ∃ payload, bytes = some payload ∧ headers.declaredLength = .ok payload.size

variable {serializer other : Serializer δ ν} {encode : Encoder ν} {topic : String}
  {headers : Headers} {value : Option ν} {bytes : Option ByteArray} {world after : World δ}

theorem Gives.of_on (ran : Action.on (serializer.serialize topic headers value) world =
    (.ok bytes, after)) : serializer.Gives topic headers value bytes :=
  ⟨world, congrArg Prod.fst ran⟩

theorem Gives.of_beside
    (gives : (serializer.beside : Serializer (δ × τ) ν).Gives topic headers value bytes) :
    serializer.Gives topic headers value bytes := by
  obtain ⟨world, ran⟩ := gives
  exact ⟨world.withState world.state.1, ran⟩

theorem Matches.beside (same : serializer.Matches other) :
    (serializer.beside : Serializer (δ × τ) ν).Matches other.beside :=
  fun once again => same once.of_beside again.of_beside

theorem KeepsNothing.beside (keeps : serializer.KeepsNothing) :
    (serializer.beside : Serializer (δ × τ) ν).KeepsNothing :=
  fun gives => keeps gives.of_beside

theorem Computes.eq_of_gives (computes : serializer.Computes encode)
    (gives : serializer.Gives topic headers value bytes) :
    encode topic headers value = .ok bytes := by
  obtain ⟨world, ran⟩ := gives
  rwa [computes, Action.on_ofExcept] at ran

theorem Computes.matches_of_computes (computes : serializer.Computes encode)
    (computesToo : other.Computes encode) : serializer.Matches other := by
  intro topic headers value first second once again
  have same := (computes.eq_of_gives once).symm.trans (computesToo.eq_of_gives again)
  cases same
  rfl

theorem keepsNothing_ofFunction (id : String) (encode : ν → Except Fault ByteArray) :
    (ofFunction id encode : Serializer δ ν).KeepsNothing := by
  rintro topic headers bytes ⟨world, ⟨⟩⟩
  rfl

theorem keepsLength_stream : (stream : Serializer δ StreamHandle).KeepsLength := by
  rintro topic headers value bytes ⟨world, ran⟩
  cases value with
  | none =>
      cases ran
      exact .inl rfl
  | some source =>
      refine .inr ⟨nofun, ?_⟩
      cases declared : headers.declaredLength with
      | error fault =>
          rw [on_stream_of_undeclared declared] at ran
          cases ran
      | ok length =>
          rcases Nat.lt_or_ge (source.available world).length length with short | enough
          · obtain ⟨fault, readers, failed⟩ : ∃ fault readers, Action.on
                (stream.serialize topic headers (some source)) world =
                  (.error fault, world.withReaders readers) :=
              on_stream_of_lt declared short
            rw [failed] at ran
            cases ran
          · obtain ⟨payload, readers, wrote, taken, -⟩ : ∃ bytes readers, Action.on
                (stream.serialize topic headers (some source)) world =
                  (.ok (some bytes), world.withReaders readers) ∧ _ ∧ _ :=
              on_stream_of_le declared enough
            rw [wrote] at ran
            cases ran
            have delivers := StreamHandle.Delivers.of_take enough taken
            exact ⟨payload, rfl, by rw [delivers.size]⟩

end Serializer

/-- The estimated size of a stored record, from what is stored. -/
def WireRecord.size (wire : WireRecord) : Nat :=
  Framing.estimate wire.key (wire.value.map ByteArray.size) wire.headers wire.timestamp

/-- A stored record that has no value, a reference in place of its value, or a size that is not over
a threshold. -/
def WireRecord.Within (wire : WireRecord) (threshold : Nat) : Prop :=
  wire.value = none ∨ wire.headers.holdsClaim = true ∧ wire.value = some ByteArray.empty ∨
    wire.size ≤ threshold

instance (wire : WireRecord) (threshold : Nat) : Decidable (wire.Within threshold) :=
  inferInstanceAs (Decidable (_ ∨ _))

/-- Of keys and values, only the sizes count. -/
theorem Framing.estimate_congr {key other : Option ByteArray}
    (same : other.map ByteArray.size = key.map ByteArray.size) (length : Option Nat)
    (headers : Headers) (now later : Int) :
    estimate other length headers later = estimate key length headers now := by
  rw [estimate, estimate, same]

section Written

variable {keySerializer : Serializer δ κ} {valueSerializer : Serializer δ ν}
  {record : ProducerRecord κ ν} {producer : Producer δ κ ν} {before after : World δ}
  {wire : WireRecord} {threshold : Nat}

/-- A record that reports a failure is not stored. -/
theorem Producer.write_ne_ok_of_failed
    (sealing : producer.valueSerializer = .sealing valueSerializer) (description : String) :
    Action.on (producer.write (record.withOutcome (.failed description))) before ≠
      (.ok wire, after) := by
  intro wrote
  obtain ⟨key, value, last, encoded, -⟩ := Producer.exists_of_write_ok wrote
  obtain ⟨middle, -, written⟩ := ProducerRecord.exists_of_encode_ok encoded
  obtain ⟨told, failed⟩ : ∃ told, Outcome.ofHeaders
      (record.withOutcome (.failed description)).headers = .ok (.failed told) :=
    Outcome.ofHeaders_apply_failed record.headers description
  rw [sealing, Serializer.serialize_sealing_of_failed failed] at written
  cases written

/-- A value that was checked in is stored as the empty one, with its reference. -/
theorem Producer.within_of_externalized
    (sealing : producer.valueSerializer = .sealing valueSerializer)
    (noClaim : record.headers.holdsClaim = false) (noFailure : record.headers.holdsFailure = false)
    {reference : Reference}
    (wrote : Action.on (producer.write (record.withOutcome (.externalized reference))) before =
      (.ok wire, after)) :
    wire.Within threshold := by
  obtain ⟨key, value, last, encoded, rfl, -⟩ := Producer.exists_of_write_ok wrote
  obtain ⟨middle, -, written⟩ := ProducerRecord.exists_of_encode_ok encoded
  have told : Outcome.ofHeaders (record.withOutcome (.externalized reference)).headers =
      .ok (.externalized reference) :=
    Outcome.ofHeaders_apply_externalized noClaim noFailure reference
  rw [sealing, Serializer.serialize_sealing_of_externalized told] at written
  cases written
  refine .inr (.inl ⟨?_, rfl⟩)
  simp [ProducerRecord.stored, ProducerRecord.withOutcome, ProducerRecord.replaceValue,
    Outcome.apply, Headers.holdsClaim, Headers.contains, Headers.add]

/-- A record without an outcome is stored as the serializers of the producer give it. -/
theorem Producer.exists_gives_of_stays
    (sealing : producer.valueSerializer = .sealing valueSerializer)
    (stays : Outcome.ofHeaders record.headers = .ok .passthrough)
    (wrote : Action.on (producer.write record) before = (.ok wire, after)) :
    wire.headers = record.headers ∧
      producer.keySerializer.Gives record.topic record.headers record.key wire.key ∧
      valueSerializer.Gives record.topic record.headers record.value wire.value := by
  obtain ⟨key, value, last, encoded, rfl, -⟩ := Producer.exists_of_write_ok wrote
  obtain ⟨middle, first, second⟩ := ProducerRecord.exists_of_encode_ok encoded
  rw [sealing, Serializer.serialize_sealing_of_passthrough stays] at second
  exact ⟨rfl, .of_on first, .of_on second⟩

end Written

namespace CheckIn

variable {stage : CheckIn δ κ ν} {record next : ProducerRecord κ ν} {world before after : World δ}
  {wire : WireRecord} {payload : ByteArray} {key : Option ByteArray}

/-- The record is over the threshold with the payload that the serializers of a stage give. -/
def Exceeds (stage : CheckIn δ κ ν) (record : ProducerRecord κ ν) (world : World δ)
    (payload : ByteArray) : Prop :=
  record.value.isSome ∧ ∃ key after,
    Action.on (stage.encode record) world = (.ok (key, some payload), after) ∧
      stage.policy.threshold < Framing.estimate key (some payload.size) record.headers
        (record.timestamp.getD after.clock)

/-- With serializers that compute, whether a record is over the threshold follows from what they
compute. -/
theorem exceeds_iff_of_computes {encodeKey : Encoder κ} {encodeValue : Encoder ν}
    (keys : stage.keySerializer.Computes encodeKey)
    (values : stage.valueSerializer.Computes encodeValue) :
    stage.Exceeds record world payload ↔
      record.value.isSome ∧ ∃ key, encodeKey record.topic record.headers record.key = .ok key ∧
        encodeValue record.topic record.headers record.value = .ok (some payload) ∧
        stage.policy.threshold < Framing.estimate key (some payload.size) record.headers
          (record.timestamp.getD world.clock) := by
  have ran : Action.on (stage.encode record) world =
      (record.encoded encodeKey encodeValue, world) := record.on_encode keys values world
  rw [Exceeds, ran]
  refine and_congr_right fun _ => exists_congr fun key => ?_
  rw [← and_assoc, ← ProducerRecord.encoded_eq_ok_iff]
  constructor
  · rintro ⟨after, encoded, large⟩
    obtain ⟨computed, rfl⟩ := Prod.mk.inj encoded
    exact ⟨computed, large⟩
  · rintro ⟨computed, large⟩
    exact ⟨world, by rw [computed], large⟩

/-- What a sent record is stored as is not over the threshold, if it is written with bytes of the
same size again. -/
theorem within_of_passes {producer : Producer δ κ ν} {wrapped : Serializer δ ν}
    (estimates : stage.policy.estimator = Framing.estimate)
    (sealing : producer.valueSerializer = .sealing wrapped)
    (keys : stage.keySerializer.Matches producer.keySerializer)
    (values : stage.valueSerializer.Matches wrapped)
    (keeps : record.value = none → wrapped.KeepsNothing)
    (noClaim : record.headers.holdsClaim = false) (noFailure : record.headers.holdsFailure = false)
    (passes : stage.Passes record world next before)
    (wrote : Action.on (producer.write next) before = (.ok wire, after)) :
    wire.Within stage.policy.threshold := by
  have stays : Outcome.ofHeaders record.headers = .ok .passthrough :=
    (Outcome.ofHeaders_eq_passthrough_iff _).mpr ⟨noClaim, noFailure⟩
  cases passes with
  | valueless absent =>
      obtain ⟨-, -, gives⟩ := Producer.exists_gives_of_stays sealing stays wrote
      rw [absent] at gives
      exact .inl (keeps absent gives)
  | unwritten key after present encoded =>
      obtain ⟨-, -, gives⟩ := Producer.exists_gives_of_stays sealing stays wrote
      obtain ⟨middle, -, earlier⟩ := ProducerRecord.exists_of_encode_ok encoded
      have absent := values (.of_on earlier) gives
      exact .inl (by simpa using absent)
  | small key payload journal after present encoded small =>
      obtain ⟨headers, keyGives, gives⟩ := Producer.exists_gives_of_stays sealing stays wrote
      obtain ⟨middle, keyEarlier, earlier⟩ := ProducerRecord.exists_of_encode_ok encoded
      have keySize := keys (.of_on keyEarlier) keyGives
      have valueSize := values (.of_on earlier) gives
      rw [CheckInPolicy.sizeOf, estimates] at small
      refine .inr (.inr ?_)
      rw [WireRecord.size, valueSize, headers, Framing.estimate_congr keySize]
      exact small
  | refused | failed => exact absurd wrote (Producer.write_ne_ok_of_failed sealing _)
  | kept => exact Producer.within_of_externalized sealing noClaim noFailure wrote

end CheckIn

namespace StreamCheckIn

variable {stage : StreamCheckIn δ κ} {record next : ProducerRecord κ StreamHandle}
  {world before after : World δ} {wire : WireRecord}

/-- What a sent stream is stored as is not over the threshold: it has the length by which it was
decided. -/
theorem within_of_passes {producer : Producer δ κ StreamHandle}
    {wrapped : Serializer δ StreamHandle} (estimates : stage.policy.estimator = Framing.estimate)
    (sealing : producer.valueSerializer = .sealing wrapped)
    (keys : stage.keySerializer.Matches producer.keySerializer) (lengths : wrapped.KeepsLength)
    (noClaim : record.headers.holdsClaim = false) (noFailure : record.headers.holdsFailure = false)
    (passes : stage.Passes record world next before)
    (wrote : Action.on (producer.write next) before = (.ok wire, after)) :
    wire.Within stage.policy.threshold := by
  have stays : Outcome.ofHeaders record.headers = .ok .passthrough :=
    (Outcome.ofHeaders_eq_passthrough_iff _).mpr ⟨noClaim, noFailure⟩
  cases passes with
  | undeclared fault journal declared =>
      obtain ⟨-, -, gives⟩ := Producer.exists_gives_of_stays sealing stays wrote
      obtain absent | ⟨-, payload, -, otherwise⟩ := lengths gives
      · exact .inl absent
      · rw [declared] at otherwise
        cases otherwise
  | valueless absent =>
      obtain ⟨-, -, gives⟩ := Producer.exists_gives_of_stays sealing stays wrote
      obtain nothing | ⟨present, -⟩ := lengths gives
      · exact .inl nothing
      · exact absurd absent present
  | small length key journal after declared written small =>
      obtain ⟨headers, keyGives, gives⟩ := Producer.exists_gives_of_stays sealing stays wrote
      obtain absent | ⟨-, payload, given, again⟩ := lengths gives
      · exact .inl absent
      · rw [declared] at again
        cases again
        have keySize := keys (.of_on written) keyGives
        rw [CheckInPolicy.sizeOf, estimates] at small
        refine .inr (.inr ?_)
        rw [WireRecord.size, given, headers, Framing.estimate_congr keySize]
        exact small
  | refused | failed => exact absurd wrote (Producer.write_ne_ok_of_failed sealing _)
  | kept => exact Producer.within_of_externalized sealing noClaim noFailure wrote

end StreamCheckIn

namespace CheckIn

/-- The calls of a depot for one record: none, or one that checks a payload in, and that for just
the payload that the record is over the threshold with. -/
structure CallsAbove (stage : CheckIn δ κ ν) (record : ProducerRecord κ ν) (world : World δ)
    (calls : Ledger) : Prop where
  once : calls = [] ∨ ∃ payload answer, calls = [.checkIn record.topic payload answer]
  above : ∀ payload, (∃ answer, calls = [.checkIn record.topic payload answer]) ↔
    stage.Exceeds record world payload

section Calls

variable {stage : CheckIn δ κ ν} {record : ProducerRecord κ ν} {world after : World δ}
  {payload : ByteArray} {key : Option ByteArray}

theorem CallsAbove.none (below : ∀ payload, ¬ stage.Exceeds record world payload) :
    CallsAbove stage record world [] where
  once := .inl rfl
  above payload := by
    refine ⟨?_, fun exceeds => absurd exceeds (below payload)⟩
    rintro ⟨_, ⟨⟩⟩

theorem CallsAbove.one (present : record.value.isSome)
    (encoded : Action.on (stage.encode record) world = (.ok (key, some payload), after))
    (large : stage.policy.threshold < Framing.estimate key (some payload.size) record.headers
      (record.timestamp.getD after.clock)) (answer : Except Fault Reference) :
    CallsAbove stage record world [.checkIn record.topic payload answer] where
  once := .inr ⟨payload, answer, rfl⟩
  above other := by
    constructor
    · rintro ⟨_, ⟨⟩⟩
      exact ⟨present, key, after, encoded, large⟩
    · rintro ⟨-, _, _, again, -⟩
      rw [encoded] at again
      cases again
      exact ⟨answer, rfl⟩

theorem not_exceeds_of_encoded {outcome : Except Fault (Option ByteArray × Option ByteArray)}
    (encoded : Action.on (stage.encode record) world = (outcome, after))
    (below : ∀ key payload, outcome = .ok (key, some payload) →
      Framing.estimate key (some payload.size) record.headers
        (record.timestamp.getD after.clock) ≤ stage.policy.threshold) (payload : ByteArray) :
    ¬ stage.Exceeds record world payload := by
  rintro ⟨-, key, last, again, large⟩
  rw [encoded] at again
  cases again
  exact Nat.not_lt_of_le (below key payload rfl) large

end Calls

section Ledgered

variable {stage : CheckIn δ κ ν} {record next : ProducerRecord κ ν}
  {world before : World (δ × Ledger)}

/-- What is entered into the ledger while a record passes the interceptor. -/
theorem exists_calls_of_passes (estimates : stage.policy.estimator = Framing.estimate)
    (passes : stage.ledgered.Passes record world next before) :
    ∃ calls, before.state.2 = world.state.2 ++ calls ∧
      stage.ledgered.CallsAbove record world calls := by
  have sized {key : Option ByteArray} {length : Nat} {now : Int} :
      stage.ledgered.policy.sizeOf record key length now =
        Framing.estimate key (some length) record.headers (record.timestamp.getD now) := by
    rw [CheckInPolicy.sizeOf]
    exact congrFun (congrFun (congrFun (congrFun estimates _) _) _) _
  cases passes with
  | valueless absent =>
      refine ⟨[], by simp, .none fun payload exceeds => ?_⟩
      simpa [absent] using exceeds.1
  | refused fault journal after present encoded =>
      refine ⟨[], by simp [ledger_of_encoded encoded], .none ?_⟩
      exact not_exceeds_of_encoded encoded nofun
  | unwritten key after present encoded =>
      refine ⟨[], by simp [ledger_of_encoded encoded], .none ?_⟩
      exact not_exceeds_of_encoded encoded nofun
  | small key payload journal after present encoded small =>
      refine ⟨[], by simp [ledger_of_encoded encoded], .none ?_⟩
      refine not_exceeds_of_encoded encoded ?_
      rintro _ _ ⟨⟩
      exact sized ▸ small
  | failed key payload fault journal middle after present encoded large answer =>
      have entered := Depot.ledger_checkIn answer
      rw [ledger_of_encoded encoded] at entered
      exact ⟨_, entered, .one present encoded (sized ▸ large) _⟩
  | kept key payload reference middle after present encoded large answer =>
      have entered := Depot.ledger_checkIn answer
      rw [ledger_of_encoded encoded] at entered
      exact ⟨_, entered, .one present encoded (sized ▸ large) _⟩

end Ledgered

end CheckIn

/-- A send asks the depot exactly for a payload that the record is over the threshold with.  What is
stored, of whole values and of streams, is within the threshold, unless a serializer of the producer
gives other sizes than the stage was given, something for nothing, or another length of a stream
than was declared. -/
theorem send_observes_threshold (depot : Depot δ) (threshold : Nat) (sent : Cell δ Nat)
    (keySerializer keyWriter : Serializer δ κ) (valueSerializer valueWriter : Serializer δ ν)
    (streamWriter : Serializer δ StreamHandle) :
    let policy : CheckInPolicy := { threshold }
    let whole : CheckIn δ κ ν := { depot, keySerializer, valueSerializer, policy }
    let streamed : StreamCheckIn δ κ := { depot, keySerializer, policy }
    (∀ (record : ProducerRecord κ ν) (world : World (δ × Ledger)),
      record.headers.holdsClaim = false → record.headers.holdsFailure = false →
        let producer : Producer (δ × Ledger) κ ν :=
          .sealing whole.ledgered.interceptor keyWriter.beside valueWriter.beside sent.beside
        let ran := Action.on (producer.send record) world
        (∃ calls, ran.2.state.2 = world.state.2 ++ calls ∧
          whole.ledgered.CallsAbove record world calls) ∧
        (keySerializer.Matches keyWriter → valueSerializer.Matches valueWriter →
          (record.value = none → valueWriter.KeepsNothing) →
            ∀ wire, ran.1 = .ok wire → wire.Within threshold)) ∧
    ∀ (record : ProducerRecord κ StreamHandle) (world : World δ),
      record.headers.holdsClaim = false → record.headers.holdsFailure = false →
        keySerializer.Matches keyWriter → streamWriter.KeepsLength →
          let producer : Producer δ κ StreamHandle :=
            .sealing streamed.interceptor keyWriter streamWriter sent
          ∀ wire, (Action.on (producer.send record) world).1 = .ok wire →
            wire.Within threshold := by
  intro policy whole streamed
  refine ⟨fun record world noClaim noFailure => ?_,
    fun record world noClaim noFailure keys lengths => ?_⟩
  · intro producer
    have stages : producer.interceptors = [whole.ledgered.interceptor] := rfl
    obtain ⟨next, before, passes, course⟩ := CheckIn.exists_passes stages record world
    rw [course]
    constructor
    · obtain ⟨calls, entered, above⟩ := CheckIn.exists_calls_of_passes rfl passes
      have kept : Action.Leaves (fun world => world.state.2) (producer.write next) :=
        Producer.leaves_write rfl rfl rfl next
      exact ⟨calls, (kept before).trans entered, above⟩
    · intro keys values keeps wire stored
      have keepsBeside (absent : record.value = none) :
          (valueWriter.beside : Serializer (δ × Ledger) ν).KeepsNothing :=
        Serializer.KeepsNothing.beside (keeps absent)
      exact CheckIn.within_of_passes rfl rfl keys.beside values.beside keepsBeside noClaim noFailure
        passes (Prod.ext stored rfl)
  · intro producer
    have stages : producer.interceptors = [streamed.interceptor] := rfl
    obtain ⟨next, before, passes, course⟩ := StreamCheckIn.exists_passes stages record world
    rw [course]
    intro wire stored
    exact StreamCheckIn.within_of_passes rfl rfl keys lengths noClaim noFailure passes
      (Prod.ext stored rfl)

/-- A record whose size is the threshold is stored as it is, and one byte less makes its payload be
checked in; four bytes of a stream are stored below a larger threshold. -/
theorem send_observes_threshold_at_boundary :
    let depot : Depot (RehearsalDepot × Nat) := RehearsalDepot.depot .left
    let sent : Cell (RehearsalDepot × Nat) Nat := .right
    let record : ProducerRecord String String :=
      { topic := "orders", key := some "k", value := some "payload" }
    let world : World ((RehearsalDepot × Nat) × Ledger) := .initial 0 .empty (({}, 0), [])
    let stage (threshold : Nat) : CheckIn (RehearsalDepot × Nat) String String :=
      { depot, keySerializer := .text, valueSerializer := .text, policy := { threshold } }
    let ran (threshold : Nat) :=
      Action.on ((Producer.checkingIn (stage threshold).ledgered sent.beside).send record) world
    let streams : StreamCheckIn (RehearsalDepot × Nat) String :=
      { depot, keySerializer := .text, policy := { threshold := 1000 } }
    let streamed : ProducerRecord String StreamHandle :=
      { topic := "orders", value := some ⟨0⟩,
        headers := Headers.empty.add Headers.lengthKey (Bytes.wordBytes 4) }
    let reading : World (RehearsalDepot × Nat) :=
      { World.initial 0 .empty ({}, 0) with readers := #[.ofBytes ⟨#[1, 2, 3, 4, 5]⟩] }
    (ran 76).2.state.2 = [] ∧ (∃ wire, (ran 76).1 = .ok wire ∧ wire.Within 76) ∧
      (∃ answer, (ran 75).2.state.2 = [.checkIn "orders" "payload".toUTF8 answer]) ∧
      (∃ wire, (ran 75).1 = .ok wire ∧ wire.Within 75) ∧
      ∃ wire, (Action.on ((Producer.checkingInStreams streams sent).send streamed) reading).1 =
        .ok wire ∧ wire.Within 1000 := by
  intro depot sent record world stage ran streams streamed reading
  have same : (Serializer.text : Serializer (RehearsalDepot × Nat) String).Matches .text :=
    Text.computes_encoder.matches_of_computes Text.computes_encoder
  have keeps : (Serializer.text : Serializer (RehearsalDepot × Nat) String).KeepsNothing :=
    Serializer.keepsNothing_ofFunction _ _
  have stored {outcome : Except Fault WireRecord} (passed : outcome.toBool = true) :
      ∃ wire, outcome = .ok wire := by
    cases outcome with
    | error fault => cases passed
    | ok wire => exact ⟨wire, rfl⟩
  have course (threshold : Nat) :=
    send_observes_threshold depot threshold sent .text .text (.text : Serializer _ String) .text
      .stream
  have exceeds (threshold : Nat) (payload : ByteArray) :
      (stage threshold).ledgered.Exceeds record world payload ↔ _ :=
    CheckIn.exceeds_iff_of_computes Text.computes_encoder.beside Text.computes_encoder.beside
  obtain ⟨⟨none, entered, below⟩, small⟩ := (course 76).1 record world rfl rfl
  obtain ⟨⟨one, enteredOne, above⟩, referred⟩ := (course 75).1 record world rfl rfl
  refine ⟨?_, ?_, ?_, ?_, ?_⟩
  · obtain rfl | ⟨payload, answer, called⟩ := below.once
    · exact entered
    · obtain ⟨-, key, keyEq, valueEq, large⟩ :=
        (exceeds 76 payload).mp ((below.above payload).mp ⟨answer, called⟩)
      cases keyEq
      cases valueEq
      exact absurd large (by decide +kernel)
  · have passed : (ran 76).1.toBool = true := by
      decide +kernel
    obtain ⟨wire, sentOk⟩ := stored passed
    exact ⟨wire, sentOk, small same same (fun _ => keeps) wire sentOk⟩
  · obtain ⟨answer, rfl⟩ := (above.above "payload".toUTF8).mpr
      ((exceeds 75 _).mpr ⟨rfl, some "k".toUTF8, rfl, rfl, by decide +kernel⟩)
    exact ⟨answer, enteredOne⟩
  · have passed : (ran 75).1.toBool = true := by
      decide +kernel
    obtain ⟨wire, sentOk⟩ := stored passed
    exact ⟨wire, sentOk, referred same same (fun _ => keeps) wire sentOk⟩
  · have passed : (Action.on ((Producer.checkingInStreams streams sent).send streamed)
        reading).1.toBool = true := by
      decide +kernel
    obtain ⟨wire, sentOk⟩ := stored passed
    exact ⟨wire, sentOk, (course 1000).2 streamed reading rfl rfl same
      Serializer.keepsLength_stream wire sentOk⟩

/-- An absent value that is written as many bytes is stored over the threshold, and so is a value
whose key is longer than the one that the stage was given. -/
theorem send_exceeds_threshold :
    let depot : Depot (RehearsalDepot × Nat) := RehearsalDepot.depot .left
    let sent : Cell (RehearsalDepot × Nat) Nat := .right
    let world : World ((RehearsalDepot × Nat) × Ledger) := .initial 0 .empty (({}, 0), [])
    let filling : Serializer (RehearsalDepot × Nat) String :=
      Encoder.serializer (fun _ _ _ => .ok (some ⟨Array.replicate 200 0⟩)) "filling"
    let ran (keySerializer valueSerializer : Serializer (RehearsalDepot × Nat) String)
        (record : ProducerRecord String String) :=
      let stage : CheckIn (RehearsalDepot × Nat) String String :=
        { depot, keySerializer, valueSerializer, policy := { threshold := 180 } }
      let producer : Producer ((RehearsalDepot × Nat) × Ledger) String String :=
        .sealing stage.ledgered.interceptor (Serializer.beside .text) valueSerializer.beside
          sent.beside
      Action.on (producer.send record) world
    let longKey := String.ofList (List.replicate 200 'k')
    (∃ wire, (ran .text filling { topic := "orders", value := none }).1 = .ok wire ∧
        ¬ wire.Within 180) ∧
      ∃ wire, (ran .absent .text { topic := "orders", key := some longKey, value := some "v" }).1 =
        .ok wire ∧ ¬ wire.Within 180 := by
  intro depot sent world filling ran longKey
  have stored {outcome : Except Fault WireRecord}
      (large : outcome.toOption.any (fun wire => ¬ wire.Within 180) = true) :
      ∃ wire, outcome = .ok wire ∧ ¬ wire.Within 180 := by
    cases outcome with
    | error fault => cases large
    | ok wire => exact ⟨wire, rfl, of_decide_eq_true large⟩
  exact ⟨stored (by decide +kernel), stored (by decide +kernel)⟩

end PayloadDepot
