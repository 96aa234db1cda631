import PayloadDepot.Proofs.Coding.Standard
import PayloadDepot.Proofs.Exchange.RoundTrip
import PayloadDepot.Proofs.Storage.Journal

/-!
# Two ways of receiving

A consumer restores a value that was checked in either while it decodes the
record or afterwards, in an interceptor of the batch.  In the second way the
plain codec reads every stored value first, also the empty bytes that stand in
for a value that was checked in.  The two ways agree, up to what they note in
the journal, on every batch whose stored values the codec can read; otherwise
only the first one may succeed.
-/

namespace PayloadDepot

variable {δ κ ν α β : Type}

namespace Action

theorem mapM_ofExcept (compute : α → Except Fault β) (values : List α) :
    values.mapM (fun value => (ofExcept (compute value) : Action δ β)) =
      ofExcept (values.mapM compute) := by
  induction values with
  | nil => rfl
  | cons value later inductionHypothesis =>
      rw [List.mapM_cons, List.mapM_cons, inductionHypothesis]
      cases compute value with
      | error fault => rfl
      | ok result => cases later.mapM compute <;> rfl

/-- Of actions that succeed one after the other each one succeeds in some world. -/
theorem of_mapM_ok {act : α → Action δ β} {values : List α} {world after : World δ}
    {results : List β} (ran : on (values.mapM act) world = (.ok results, after)) :
    ∀ value ∈ values, ∃ before result later, on (act value) before = (.ok result, later) := by
  induction values generalizing world after results with
  | nil =>
      intro value member
      cases member
  | cons first others inductionHypothesis =>
      intro value member
      rw [List.mapM_cons, on_bind] at ran
      rcases begun : on (act first) world with ⟨fault | result, middle⟩
      · rw [begun] at ran
        cases ran
      · rw [begun] at ran
        dsimp only at ran
        rw [on_bind] at ran
        rcases rest : on (others.mapM act) middle with ⟨fault | later, last⟩
        · rw [rest] at ran
          cases ran
        · rcases List.mem_cons.mp member with rfl | among
          · exact ⟨world, result, middle, begun⟩
          · exact inductionHypothesis rest value among

end Action

theorem forall₂_of_mapM_ok {compute : α → Except Fault β} {values : List α} {results : List β}
    (computed : values.mapM compute = .ok results) :
    List.Forall₂ (fun value result => compute value = .ok result) values results := by
  induction values generalizing results with
  | nil =>
      cases computed
      exact .nil
  | cons value later inductionHypothesis =>
      rw [List.mapM_cons] at computed
      cases first : compute value with
      | error fault =>
          rw [first] at computed
          cases computed
      | ok result =>
          cases rest : later.mapM compute with
          | error fault =>
              rw [first, rest] at computed
              cases computed
          | ok others =>
              rw [first, rest] at computed
              cases computed
              exact .cons first (inductionHypothesis rest)

theorem exists_error_of_mapM_error {compute : α → Except Fault β} {values : List α}
    {fault : Fault} (failed : values.mapM compute = .error fault) :
    ∃ value ∈ values, ∃ cause, compute value = .error cause := by
  induction values with
  | nil => cases failed
  | cons value later inductionHypothesis =>
      cases first : compute value with
      | error cause => exact ⟨value, List.mem_cons_self, cause, first⟩
      | ok result =>
          cases rest : later.mapM compute with
          | error cause =>
              obtain ⟨other, member, found⟩ := inductionHypothesis (rest.trans (by
                rw [List.mapM_cons, first, rest] at failed
                exact failed))
              exact ⟨other, List.mem_cons_of_mem _ member, found⟩
          | ok others =>
              rw [List.mapM_cons, first, rest] at failed
              cases failed

/-- The consumer that reads every stored value with its codec and restores those that were checked
in afterwards. -/
def Consumer.restoringAfter (depot : Depot δ) (keyDeserializer : Deserializer δ κ)
    (valueDeserializer : Deserializer δ ν) : Consumer δ κ ν where
  keyDeserializer := keyDeserializer
  valueDeserializer := valueDeserializer
  interceptors := [.restoring depot valueDeserializer]

theorem WireRecord.of_decoded_ok {decodeKey : Decoder κ} {decodeValue : Decoder ν}
    {wire : WireRecord} {record : ConsumerRecord κ ν}
    (decoded : wire.decoded decodeKey decodeValue = .ok record) :
    ∃ key value, decodeKey wire.topic wire.headers wire.key = .ok key ∧
      decodeValue wire.topic wire.headers wire.value = .ok value ∧
      record = wire.received key value := by
  rw [WireRecord.decoded] at decoded
  cases key : decodeKey wire.topic wire.headers wire.key with
  | error fault =>
      rw [key] at decoded
      cases decoded
  | ok readKey =>
      cases value : decodeValue wire.topic wire.headers wire.value with
      | error fault =>
          rw [key, value] at decoded
          cases decoded
      | ok readValue =>
          rw [key, value] at decoded
          cases decoded
          exact ⟨readKey, readValue, rfl, rfl, rfl⟩

namespace Consumer

variable {depot : Depot δ} {keyDeserializer : Deserializer δ κ}
  {valueDeserializer : Deserializer δ ν} {decodeKey : Decoder κ} {decodeValue : Decoder ν}
  {wire : WireRecord} {record : ConsumerRecord κ ν} {fetched : List WireRecord}
  {batch : Batch κ ν} {world after : World δ}

/-- A stored value that the codec can read is restored in the same way while its record is decoded
and afterwards. -/
theorem agree_decode (overlooks : depot.OverlooksJournal)
    (keys : keyDeserializer.Computes decodeKey) (values : valueDeserializer.Computes decodeValue)
    (decoded : wire.decoded decodeKey decodeValue = .ok record) :
    Action.Agree ((checkingOut depot keyDeserializer valueDeserializer).decode wire)
      (ReceiveInterceptor.restoreRecord depot valueDeserializer record) := by
  obtain ⟨key, value, keyEq, valueEq, rfl⟩ := WireRecord.of_decoded_ok decoded
  simp only [decode, checkingOut, Deserializer.restoring, ReceiveInterceptor.restoreRecord,
    WireRecord.received, keys wire.topic, values wire.topic, keyEq]
  cases Outcome.ofHeaders wire.headers with
  | error fault => exact Action.agree_fail fault
  | ok outcome =>
      cases outcome with
      | failed description => exact Action.agree_fail _
      | passthrough =>
          rw [valueEq]
          exact Action.agree_pure _
      | externalized reference =>
          simp only [Action.ofExcept, pure_bind, bind_assoc]
          refine Action.Agree.noting ?_ _ _ _
          refine (overlooks reference).bind fun payload => ?_
          cases decodeValue wire.topic wire.headers (some payload) with
          | error fault => exact Action.agree_fail fault
          | ok restored => exact Action.agree_pure _

theorem on_poll_checkingOut :
    Action.on ((checkingOut depot keyDeserializer valueDeserializer).poll fetched) world =
      Action.on (do
        let records ← fetched.mapM (checkingOut depot keyDeserializer valueDeserializer).decode
        return ⟨records⟩) world := rfl

/-- A batch is restored afterwards only if all of its stored values can be read. -/
theorem on_poll_restoringAfter (keys : keyDeserializer.Computes decodeKey)
    (values : valueDeserializer.Computes decodeValue) :
    Action.on ((restoringAfter depot keyDeserializer valueDeserializer).poll fetched) world =
      match fetched.mapM (WireRecord.decoded decodeKey decodeValue) with
      | .error fault => (.error fault, world)
      | .ok records => Action.on (do
          let restored ← records.mapM
            (ReceiveInterceptor.restoreRecord depot valueDeserializer)
          return ⟨restored⟩) world := by
  have decodes : (restoringAfter depot keyDeserializer valueDeserializer).decode =
      fun wire => Action.ofExcept (wire.decoded decodeKey decodeValue) := by
    funext wire
    simp only [decode, restoringAfter, keys wire.topic, values wire.topic, WireRecord.decoded]
    cases decodeKey wire.topic wire.headers wire.key with
    | error fault => rfl
    | ok key => cases decodeValue wire.topic wire.headers wire.value <;> rfl
  rw [poll, decodes, Action.mapM_ofExcept, Action.on_ofExcept_bind]
  cases fetched.mapM (WireRecord.decoded decodeKey decodeValue) with
  | error fault => rfl
  | ok records =>
      simp only [restoringAfter, intercept, ReceiveInterceptor.restoring, bind_assoc, pure_bind]

/-- If all stored values can be read, a batch is received in the same way by both consumers. -/
theorem poll_eq_of_decoded (overlooks : depot.OverlooksJournal)
    (keys : keyDeserializer.Computes decodeKey) (values : valueDeserializer.Computes decodeValue)
    {records : List (ConsumerRecord κ ν)}
    (decoded : fetched.mapM (WireRecord.decoded decodeKey decodeValue) = .ok records)
    (world : World δ) :
    (Action.on ((restoringAfter depot keyDeserializer valueDeserializer).poll fetched) world).1 =
      (Action.on ((checkingOut depot keyDeserializer valueDeserializer).poll fetched) world).1 := by
  have agree : Action.Agree
      (fetched.mapM (checkingOut depot keyDeserializer valueDeserializer).decode)
      (records.mapM (ReceiveInterceptor.restoreRecord depot valueDeserializer)) :=
    Action.agree_mapM
      ((forall₂_of_mapM_ok decoded).imp fun _ _ => agree_decode overlooks keys values)
  rw [on_poll_restoringAfter keys values, decoded, on_poll_checkingOut]
  exact ((agree.bind fun _ => Action.agree_pure _) world world (.refl world)).1.symm

/-- A record that was restored while it was decoded could have been read by the codec, if its value
stayed in it. -/
theorem exists_decoded_of_passthrough (keys : keyDeserializer.Computes decodeKey)
    (values : valueDeserializer.Computes decodeValue)
    (ran : Action.on ((checkingOut depot keyDeserializer valueDeserializer).decode wire) world =
      (.ok record, after)) :
    ∃ key, decodeKey wire.topic wire.headers wire.key = .ok key ∧
      (Outcome.ofHeaders wire.headers = .ok .passthrough →
        ∃ value, decodeValue wire.topic wire.headers wire.value = .ok value) := by
  simp only [decode, checkingOut, Deserializer.restoring, keys wire.topic, values wire.topic,
    Action.on_ofExcept_bind] at ran
  cases keyEq : decodeKey wire.topic wire.headers wire.key with
  | error fault =>
      rw [keyEq] at ran
      cases ran
  | ok key =>
      refine ⟨key, rfl, fun stays => ?_⟩
      cases valueEq : decodeValue wire.topic wire.headers wire.value with
      | error fault =>
          rw [keyEq, stays, valueEq] at ran
          cases ran
      | ok value => exact ⟨value, rfl⟩

/-- What is restored afterwards is restored in the same way while it is decoded; the other way
round, the codec has to read what stands in the records whose values were checked in. -/
theorem poll_restoringAfter_eq_ok_iff (overlooks : depot.OverlooksJournal)
    (keys : keyDeserializer.Computes decodeKey) (values : valueDeserializer.Computes decodeValue)
    (fetched : List WireRecord) (world : World δ) (batch : Batch κ ν) :
    (Action.on ((restoringAfter depot keyDeserializer valueDeserializer).poll fetched) world).1 =
        .ok batch ↔
      (Action.on ((checkingOut depot keyDeserializer valueDeserializer).poll fetched) world).1 =
          .ok batch ∧
        ∀ wire ∈ fetched, Outcome.ofHeaders wire.headers ≠ .ok .passthrough →
          ∃ value, decodeValue wire.topic wire.headers wire.value = .ok value := by
  cases decoded : fetched.mapM (WireRecord.decoded decodeKey decodeValue) with
  | ok records =>
      have readable : ∀ wire ∈ fetched, Outcome.ofHeaders wire.headers ≠ .ok .passthrough →
          ∃ value, decodeValue wire.topic wire.headers wire.value = .ok value := by
        intro wire member _
        obtain ⟨index, bound, rfl⟩ := List.mem_iff_getElem.mp member
        obtain ⟨length, related⟩ := List.forall₂_iff_get.mp (forall₂_of_mapM_ok decoded)
        obtain ⟨-, value, -, valueEq, -⟩ :=
          WireRecord.of_decoded_ok (related index bound (length ▸ bound))
        exact ⟨value, valueEq⟩
      rw [poll_eq_of_decoded overlooks keys values decoded, and_iff_left readable]
  | error fault =>
      rw [on_poll_restoringAfter keys values, decoded]
      refine ⟨nofun, fun ⟨polled, readable⟩ => ?_⟩
      obtain ⟨wire, member, cause, failed⟩ := exists_error_of_mapM_error decoded
      rcases ran : Action.on (fetched.mapM
        (checkingOut depot keyDeserializer valueDeserializer).decode) world with
        ⟨other | records, after⟩
      · rw [on_poll_checkingOut, Action.on_bind_of_error ran] at polled
        cases polled
      · obtain ⟨before, record, later, received⟩ := Action.of_mapM_ok ran wire member
        obtain ⟨key, keyEq, stays⟩ := exists_decoded_of_passthrough keys values received
        have valueEq : ∃ value, decodeValue wire.topic wire.headers wire.value = .ok value := by
          by_cases told : Outcome.ofHeaders wire.headers = .ok .passthrough
          · exact stays told
          · exact readable wire member told
        obtain ⟨value, valueEq⟩ := valueEq
        rw [WireRecord.decoded_eq_ok_iff.mpr ⟨keyEq, valueEq⟩] at failed
        cases failed

end Consumer

section Sent

variable {serializer : Serializer δ ν} {encodeValue : Encoder ν} {wire : WireRecord}

/-- A stored record that was sent by a producer which checks values in, for a record whose headers
told of no outcome. -/
structure Serializer.Sent (serializer : Serializer δ ν) (stage : CheckIn δ κ ν)
    (record : ProducerRecord κ ν) (wire : WireRecord) : Prop where
  wraps : stage.valueSerializer = serializer
  keys : ∃ encodeKey, stage.keySerializer.Computes encodeKey
  noClaim : record.headers.holdsClaim = false
  noFailure : record.headers.holdsFailure = false
  passes : ∃ sent world,
    (Action.on ((Producer.checkingIn stage sent).send record) world).1 = .ok wire

/-- A record that was sent tells of no failure, and if it tells of a reference, empty bytes stand in
for its value. -/
theorem Serializer.Sent.stands {stage : CheckIn δ κ ν} {record : ProducerRecord κ ν}
    (sent : serializer.Sent stage record wire) (values : serializer.Computes encodeValue) :
    wire.headers.holdsFailure = false ∧
      (wire.headers.holdsClaim = true → wire.value = some ByteArray.empty) := by
  obtain ⟨rfl, ⟨encodeKey, keys⟩, noClaim, noFailure, offsets, world, passes⟩ := sent
  obtain ⟨next, before, settled, course⟩ :=
    CheckIn.exists_settled keys values offsets record world
  have wrote : Action.on ((Producer.checkingIn stage offsets).write next) before = (.ok wire, _) :=
    Prod.ext ((congrArg Prod.fst course).symm.trans passes) rfl
  have unreported {description : String}
      (told : Outcome.ofHeaders next.headers = .ok (.failed description)) : False := by
    obtain ⟨fault, failed, -⟩ := CheckIn.write_of_failed keys values offsets told before
    rw [failed] at wrote
    cases wrote
  obtain ⟨key, value, -, valueEq, rfl, -⟩ := Producer.of_write_ok keys values.sealing wrote
  cases settled with
  | stays journal verdict =>
      refine ⟨noFailure, fun claim => ?_⟩
      rw [show record.headers.holdsClaim = true from claim] at noClaim
      cases noClaim
  | refused journal fault verdict =>
      exact (unreported (Outcome.ofHeaders_apply_failed_of_none noFailure _)).elim
  | failed journal payload fault answered verdict answer =>
      exact (unreported (Outcome.ofHeaders_apply_failed_of_none noFailure _)).elim
  | kept payload reference answered verdict answer =>
      refine ⟨(Outcome.holdsFailure_apply_externalized _ _).trans noFailure, fun _ => ?_⟩
      have told : Outcome.ofHeaders (record.withOutcome (.externalized reference)).headers =
          .ok (.externalized reference) :=
        Outcome.ofHeaders_apply_externalized noClaim noFailure reference
      rw [Encoder.sealed, told, Except.ok.injEq] at valueEq
      exact valueEq.symm

end Sent

/-- Records that were sent with a codec of the standard sets are received in the same way by both
consumers, unless the codec is the one for JSON: that one reads no value from the empty bytes that
stand in for a value that was checked in, so then a batch is received afterwards only if none of its
values was. -/
theorem received_afterwards_iff {codecs : CodecSet δ ν} (standard : codecs.Standard) {id : String}
    {serializer : Serializer δ ν} {deserializer : Deserializer δ ν}
    (offers : codecs.Offers id serializer deserializer) {depot : Depot δ}
    (overlooks : depot.OverlooksJournal) {keyDeserializer : Deserializer δ κ}
    {decodeKey : Decoder κ} (keys : keyDeserializer.Computes decodeKey)
    (fetched : List WireRecord)
    (sent : ∀ wire ∈ fetched, ∃ (stage : CheckIn δ κ ν) (record : ProducerRecord κ ν),
      serializer.Sent stage record wire)
    (world : World δ) (batch : Batch κ ν) :
    (Action.on ((Consumer.restoringAfter depot keyDeserializer deserializer).poll fetched)
        world).1 = .ok batch ↔
      (Action.on ((Consumer.checkingOut depot keyDeserializer deserializer).poll fetched)
          world).1 = .ok batch ∧
        (id = "json" → ∀ wire ∈ fetched, wire.headers.holdsClaim = false) := by
  obtain ⟨encode, decode, writes, reads, readsEmpty⟩ := standard.exists_functions offers
  rw [Consumer.poll_restoringAfter_eq_ok_iff overlooks keys reads]
  refine and_congr_right fun _ => ?_
  have stands (wire : WireRecord) (member : wire ∈ fetched) :
      wire.headers.holdsFailure = false ∧
        (wire.headers.holdsClaim = true → wire.value = some ByteArray.empty) := by
    obtain ⟨stage, record, passed⟩ := sent wire member
    exact passed.stands writes
  have refersIff (wire : WireRecord) (member : wire ∈ fetched) :
      Outcome.ofHeaders wire.headers ≠ .ok .passthrough ↔ wire.headers.holdsClaim = true := by
    rw [Ne, Outcome.ofHeaders_eq_passthrough_iff, and_iff_left (stands wire member).1,
      Bool.not_eq_false]
  constructor
  · intro readable json wire member
    rw [← Bool.not_eq_true]
    intro claim
    obtain ⟨value, read⟩ := readable wire member ((refersIff wire member).mpr claim)
    rw [(stands wire member).2 claim, Decoder.ofFunction] at read
    cases decoded : decode ByteArray.empty with
    | error fault =>
        rw [decoded] at read
        cases read
    | ok present => exact readsEmpty.mp ⟨present, decoded⟩ json
  · intro kept wire member refers
    have claim := (refersIff wire member).mp refers
    rw [(stands wire member).2 claim, Decoder.ofFunction]
    have other : id ≠ "json" := by
      intro json
      rw [kept json wire member] at claim
      cases claim
    obtain ⟨present, decoded⟩ := readsEmpty.mpr other
    exact ⟨some present, by rw [decoded]; rfl⟩

section Runs

open Exchange

def longText : ProducerRecord String String :=
  { topic := "orders", value := some "a text over the threshold" }

/-- The record that is stored for the text, and the one for no value. -/
def storedTexts : WireRecord × WireRecord :=
  (⟨"orders", 0, 0, 0, none, some ByteArray.empty, (Outcome.externalized
      (.compose MemoryDepot.scheme "orders" (BlobName.ofNumber 0 0))).apply .empty⟩,
    ⟨"orders", 0, 0, 0, none, none, .empty⟩)

/-- A text that was checked in and the lack of one are received afterwards. -/
theorem received_afterwards_iff_of_texts :
    let depot : Depot (MemoryDepot × Nat) := MemoryDepot.depot .left
    let world := (Action.on ((ofTexts 80).producer.send longText) textsBegin).2
    let fetched := [storedTexts.1, storedTexts.2]
    let batch := ⟨[storedTexts.1.received none longText.value, storedTexts.2.received none none]⟩
    CodecSet.forTexts.Standard (δ := MemoryDepot × Nat) ∧
      CodecSet.forTexts.Offers (δ := MemoryDepot × Nat) "string" .text .text ∧
      depot.OverlooksJournal ∧
      (Deserializer.text : Deserializer (MemoryDepot × Nat) String).Computes Text.decoder ∧
      (∀ wire ∈ fetched, ∃ (stage : CheckIn (MemoryDepot × Nat) String String)
        (record : ProducerRecord String String), Serializer.text.Sent stage record wire) ∧
      (Action.on ((Consumer.restoringAfter depot .text .text).poll fetched) world).1 =
        .ok batch := by
  intro depot world fetched batch
  have offers : CodecSet.forTexts.Offers (δ := MemoryDepot × Nat) "string" .text .text :=
    ⟨rfl, rfl⟩
  have overlooks : depot.OverlooksJournal := MemoryDepot.overlooksJournal .left
  have sent : ∀ wire ∈ fetched, ∃ (stage : CheckIn (MemoryDepot × Nat) String String)
      (record : ProducerRecord String String), Serializer.text.Sent stage record wire := by
    intro wire member
    have keys : ∃ encodeKey, (ofTexts 80).stage.keySerializer.Computes encodeKey :=
      ⟨_, Text.computes_encoder⟩
    rcases List.mem_pair.mp member with rfl | rfl
    · exact ⟨(ofTexts 80).stage, longText, rfl, keys, rfl, rfl, .right, textsBegin,
        eq_ok_of_toOption (by decide +kernel)⟩
    · exact ⟨(ofTexts 80).stage, { topic := "orders", value := none }, rfl, keys, rfl, rfl, .right,
        textsBegin, eq_ok_of_toOption (by decide +kernel)⟩
  have received : (Action.on ((Consumer.checkingOut depot .text .text).poll fetched) world).1 =
      .ok batch := eq_ok_of_toOption (by decide +kernel)
  refine ⟨.texts, offers, overlooks, Text.computes_decoder, sent, ?_⟩
  exact (received_afterwards_iff .texts offers overlooks Text.computes_decoder fetched sent world
    batch).mpr ⟨received, fun json => absurd json (by decide)⟩

/-- A stage that checks all JSON values in. -/
def jsonStage : CheckIn (MemoryDepot × Nat) String Json where
  depot := MemoryDepot.depot .left
  keySerializer := .text
  valueSerializer := .json
  policy := { threshold := 0 }

/-- A JSON value that was checked in is received while its record is decoded, but not afterwards. -/
theorem json_not_received_afterwards :
    ¬ ∀ (wire : WireRecord) (world : World (MemoryDepot × Nat)) (batch : Batch String Json),
      (∃ (stage : CheckIn (MemoryDepot × Nat) String Json) (record : ProducerRecord String Json),
        Serializer.json.Sent stage record wire) →
      ((Action.on ((Consumer.restoringAfter (MemoryDepot.depot .left) .text .json).poll [wire])
          world).1 = .ok batch ↔
        (Action.on ((Consumer.checkingOut (MemoryDepot.depot .left) .text .json).poll [wire])
          world).1 = .ok batch) := by
  intro claim
  let wire := storedTexts.1
  let record : ProducerRecord String Json := { topic := "orders", value := some .null }
  let sending := Action.on ((Producer.checkingIn jsonStage .right).send record) textsBegin
  have sent : sending.1 = .ok wire := eq_ok_of_toOption (by decide +kernel)
  have received : (Action.on ((Consumer.checkingOut (MemoryDepot.depot .left) .text
      (.json : Deserializer _ Json)).poll [wire]) sending.2).1.toBool = true := by decide +kernel
  have refused : (Action.on ((Consumer.restoringAfter (MemoryDepot.depot .left) .text
      (.json : Deserializer _ Json)).poll [wire]) sending.2).1.toBool = false := by decide +kernel
  cases polled : (Action.on ((Consumer.checkingOut (MemoryDepot.depot .left) .text
      (.json : Deserializer _ Json)).poll [wire]) sending.2).1 with
  | error fault =>
      rw [polled] at received
      cases received
  | ok batch =>
      have agree := claim wire sending.2 batch ⟨jsonStage, record, rfl, ⟨_, Text.computes_encoder⟩,
        rfl, rfl, .right, textsBegin, sent⟩
      rw [agree.mpr polled] at refused
      cases refused

end Runs

end PayloadDepot
