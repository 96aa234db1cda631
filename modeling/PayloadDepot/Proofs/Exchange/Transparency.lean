import PayloadDepot.Proofs.Inbound.Poll
import PayloadDepot.Proofs.Outbound.Ledgered
import PayloadDepot.Rehearsal.Codec
import PayloadDepot.Rehearsal.Depot

/-!
# Transparency

A producer that made no call of its depot stored what its serializers alone would
have stored, in a world that differs in the journal at most.  It also failed just
when these fail, but not always with the same kind of fault: a value that a codec
refuses is refused in the interceptor already, and is reported as if its check-in
had failed.  A consumer is transparent without exception.
-/

namespace PayloadDepot

variable {δ κ ν τ : Type}

section Plain

/-- The producer of two serializers and nothing else. -/
def Producer.plain (keySerializer : Serializer δ κ) (valueSerializer : Serializer δ ν)
    (sent : Cell δ Nat) : Producer δ κ ν where
  keySerializer := keySerializer
  valueSerializer := valueSerializer
  sent := sent

def Consumer.plain (keyDeserializer : Deserializer δ κ) (valueDeserializer : Deserializer δ ν) :
    Consumer δ κ ν where
  keyDeserializer := keyDeserializer
  valueDeserializer := valueDeserializer

/-- The fault of a send in place of one that a codec refused the record with: if there is a value,
it becomes a report in the headers, and the key is written beside it first. -/
def Encoder.reported (encodeKey : Encoder κ) (record : ProducerRecord κ ν) (fault : Fault) :
    Fault :=
  let report := fault.report (record.attempted .whole)
  if record.value.isSome then
    match encodeKey record.topic ((Outcome.failed report).apply record.headers) record.key with
    | .error refusal => refusal
    | .ok _ => .externalization report
  else fault

end Plain

section Write

variable {record : ProducerRecord κ ν} {encodeKey : Encoder κ} {encodeValue : Encoder ν}
  {offset : Nat} {now : Int}

theorem Producer.on_send_plain (keySerializer : Serializer δ κ) (valueSerializer : Serializer δ ν)
    (sent : Cell δ Nat) (record : ProducerRecord κ ν) (world : World δ) :
    Action.on ((plain keySerializer valueSerializer sent).send record) world =
      Action.on ((plain keySerializer valueSerializer sent).write record) world :=
  on_send (fun _ member => by cases member) rfl

theorem ProducerRecord.written_sealed
    (stays : Outcome.ofHeaders record.headers = .ok .passthrough) :
    record.written encodeKey encodeValue.sealed offset now =
      record.written encodeKey encodeValue offset now := by
  rw [written, Encoder.sealed, stays]
  rfl

/-- A record whose value stays is stored, or refused without a report. -/
theorem ProducerRecord.mapError_written_of_stays {policy : CheckInPolicy}
    (verdict : policy.verdict encodeKey encodeValue record now = .stays) (later : Int) :
    (record.written encodeKey encodeValue offset later).mapError (encodeKey.reported record) =
      record.written encodeKey encodeValue offset later := by
  cases outcome : record.written encodeKey encodeValue offset later with
  | ok wire => rfl
  | error fault =>
      have absent : record.value.isSome = false := by
        refine Bool.eq_false_iff.mpr fun present => ?_
        have refused : policy.verdict encodeKey encodeValue record now = .refused fault :=
          CheckInPolicy.verdict_eq_refused_iff.mpr
            ⟨present, ProducerRecord.written_eq_error_iff.mp outcome⟩
        rw [verdict] at refused
        cases refused
      simp [Except.mapError, Encoder.reported, absent]

/-- A record that reports a failure is refused with the report, if its key can be written beside
it. -/
theorem ProducerRecord.written_withOutcome_failed (present : record.value.isSome)
    (noFailure : record.headers.holdsFailure = false) (fault : Fault) :
    (record.withOutcome (.failed (fault.report (record.attempted .whole)))).written encodeKey
      encodeValue.sealed offset now = .error (encodeKey.reported record fault) := by
  have told : Outcome.ofHeaders
      (record.withOutcome (.failed (fault.report (record.attempted .whole)))).headers =
        .ok (.failed (fault.report (record.attempted .whole))) :=
    Outcome.ofHeaders_apply_failed_of_none noFailure _
  rw [written, Encoder.sealed, told, Encoder.reported, if_pos present]
  change (encodeKey record.topic ((Outcome.failed _).apply record.headers) record.key >>= _) = _
  cases encodeKey record.topic
    ((Outcome.failed (fault.report (record.attempted .whole))).apply record.headers) record.key <;>
    rfl

end Write

section Send

variable {encodeKey : Encoder κ} {encodeValue : Encoder ν} {record : ProducerRecord κ ν}
  {sent : Cell δ Nat}

/-- A send that made no call of the depot ends as the plain producer does, but for the fault of a
value that was refused. -/
theorem CheckIn.send_of_uncalled (stage : CheckIn δ κ ν)
    (keys : stage.keySerializer.Computes encodeKey)
    (values : stage.valueSerializer.Computes encodeValue)
    (noClaim : record.headers.holdsClaim = false) (noFailure : record.headers.holdsFailure = false)
    {world : World (δ × Ledger)}
    (uncalled : (Action.on ((Producer.checkingIn stage.ledgered sent.beside).send record)
      world).2.state.2 = world.state.2) :
    let ran := Action.on ((Producer.checkingIn stage.ledgered sent.beside).send record) world
    let written := record.written encodeKey encodeValue (sent.read world.state.1) world.clock
    let plain := Action.on ((Producer.plain stage.ledgered.keySerializer
      stage.ledgered.valueSerializer sent.beside).send record) world
    plain.1 = written ∧ ran.1 = written.mapError (encodeKey.reported record) ∧
      ∃ journal, ran.2 = plain.2.withJournal journal := by
  intro ran written plain
  have stays : Outcome.ofHeaders record.headers = .ok .passthrough :=
    (Outcome.ofHeaders_eq_passthrough_iff _).mpr ⟨noClaim, noFailure⟩
  have keysBeside : stage.ledgered.keySerializer.Computes encodeKey := keys.beside
  have valuesBeside : stage.ledgered.valueSerializer.Computes encodeValue := values.beside
  obtain ⟨next, before, settled, course⟩ :=
    CheckIn.exists_settled keysBeside valuesBeside sent.beside record world
  have plainEq : plain = _ :=
    (Producer.on_send_plain _ _ _ _ _).trans
      (Producer.on_write_of_computes keysBeside valuesBeside record world)
  have wrote : Action.on ((Producer.checkingIn stage.ledgered sent.beside).write next) before = _ :=
    Producer.on_write_of_computes keysBeside valuesBeside.sealing next before
  have entered : before.state.2 = world.state.2 := by
    rw [← uncalled, course]
    exact (CheckIn.leaves_write stage sent next before).symm
  have ranEq : ran = _ := course.trans wrote
  rw [plainEq]
  refine ⟨rfl, ?_⟩
  rw [ranEq]
  cases settled with
  | stays journal verdict =>
      rw [ProducerRecord.written_sealed stays]
      refine ⟨(ProducerRecord.mapError_written_of_stays verdict world.clock).symm, journal, ?_⟩
      change ite (written.toBool = true) _ _ = World.withJournal (ite (written.toBool = true) _ _) _
      split <;> rfl
  | refused journal fault verdict =>
      obtain ⟨present, encoded⟩ := CheckInPolicy.verdict_eq_refused_iff.mp verdict
      have refused : written = .error fault := ProducerRecord.written_eq_error_iff.mpr encoded
      rw [ProducerRecord.written_withOutcome_failed present noFailure]
      refine ⟨by rw [refused]; rfl, journal, ?_⟩
      change _ = World.withJournal (ite (written.toBool = true) _ _) _
      rw [refused]
      rfl
  | failed journal payload fault answered verdict answer =>
      have called := Depot.ledger_checkIn answer
      rw [show answered.state.2 = world.state.2 from entered] at called
      simp at called
  | kept payload reference answered verdict answer =>
      have called := Depot.ledger_checkIn answer
      rw [entered] at called
      simp at called

/-- A key codec that takes no notice of reports lets only refused values through under another kind
of fault than their own. -/
theorem ProducerRecord.kind_reported_iff (blind : encodeKey.Blind) (offset : Nat) (now : Int) :
    ((record.written encodeKey encodeValue offset now).mapError
        (encodeKey.reported record)).mapError Fault.kind =
      (record.written encodeKey encodeValue offset now).mapError Fault.kind ↔
        ∀ key fault, record.value.isSome →
          encodeKey record.topic record.headers record.key = .ok key →
            encodeValue record.topic record.headers record.value = .error fault →
              fault.kind = .storage := by
  cases present : record.value.isSome with
  | false =>
      have same : encodeKey.reported record = id := by
        funext fault
        simp [Encoder.reported, present]
      rw [same]
      cases record.written encodeKey encodeValue offset now <;> simp [Except.mapError]
  | true =>
      rw [written]
      cases keyEq : encodeKey record.topic record.headers record.key with
      | error refusal =>
          have same : encodeKey.reported record refusal = refusal := by
            simp [Encoder.reported, present, blind record.topic, keyEq]
          simp [bind, Except.bind, Except.mapError, same]
      | ok key =>
          have told (fault : Fault) : (encodeKey.reported record fault).kind = .storage := by
            simp [Encoder.reported, present, blind record.topic, keyEq, Fault.kind]
          cases valueEq : encodeValue record.topic record.headers record.value with
          | error fault => simp [bind, Except.bind, Except.mapError, told, eq_comm]
          | ok value => simp [bind, Except.bind, pure, Except.pure, Except.mapError]

end Send

section Poll

/-- The deserializer on a state that has something else beside it, which it does not see. -/
def Deserializer.beside (deserializer : Deserializer δ ν) : Deserializer (δ × τ) ν where
  id := deserializer.id
  deserialize topic headers bytes := (deserializer.deserialize topic headers bytes).beside
  close := deserializer.close.beside

variable {depot : Depot δ} {keyDeserializer : Deserializer δ κ}
  {valueDeserializer : Deserializer δ ν} {wire : WireRecord} {fetched : List WireRecord}

theorem Consumer.decode_checkingOut (stays : Outcome.ofHeaders wire.headers = .ok .passthrough) :
    (checkingOut depot keyDeserializer valueDeserializer).decode wire =
      (plain keyDeserializer valueDeserializer).decode wire := by
  have restored : (Deserializer.restoring depot valueDeserializer).deserialize wire.topic
      wire.headers wire.value =
        valueDeserializer.deserialize wire.topic wire.headers wire.value := by
    rw [Deserializer.restoring]
    dsimp only
    rw [stays]
    rfl
  rw [decode, decode, checkingOut, plain, restored]

/-- Records that tell of no outcome are polled as if there was no depot. -/
theorem Consumer.poll_checkingOut
    (stay : ∀ wire ∈ fetched, Outcome.ofHeaders wire.headers = .ok .passthrough) :
    (checkingOut depot keyDeserializer valueDeserializer).poll fetched =
      (plain keyDeserializer valueDeserializer).poll fetched := by
  have decoded : fetched.mapM (checkingOut depot keyDeserializer valueDeserializer).decode =
      fetched.mapM (plain keyDeserializer valueDeserializer).decode := by
    induction fetched with
    | nil => rfl
    | cons wire later inductionHypothesis =>
        rw [List.mapM_cons, List.mapM_cons, decode_checkingOut (stay wire List.mem_cons_self),
          inductionHypothesis fun other member => stay other (List.mem_cons_of_mem _ member)]
  rw [poll, poll, decoded]
  rfl

theorem Consumer.leaves_poll_plain (keyDeserializer : Deserializer δ κ)
    (valueDeserializer : Deserializer δ ν) (fetched : List WireRecord) :
    Action.Leaves (fun world : World (δ × τ) => world.state.2)
      ((plain keyDeserializer.beside valueDeserializer.beside).poll fetched) :=
  have decode (wire : WireRecord) : Action.Leaves (fun world : World (δ × τ) => world.state.2)
      ((plain keyDeserializer.beside valueDeserializer.beside).decode wire) :=
    .bind (fun _ => rfl) fun _ => .bind (fun _ => rfl) fun _ => .pure _
  .bind (.mapM decode fetched) fun _ => .pure _

end Poll

/-- Without a call of the depot, a send ends as that of the plain producer, but for the fault that
is told of a refused record.  That is of another kind exactly if there is a value and its codec
refuses it with a fault that is none of the storage.  Records without reserved headers are polled as
by the plain consumer, and without a call. -/
theorem transparent_without_calls (stage : CheckIn δ κ ν) (sent : Cell δ Nat)
    {encodeKey : Encoder κ} {encodeValue : Encoder ν}
    (keys : stage.keySerializer.Computes encodeKey)
    (values : stage.valueSerializer.Computes encodeValue)
    (keyDeserializer : Deserializer δ κ) (valueDeserializer : Deserializer δ ν) :
    (∀ (record : ProducerRecord κ ν) (world : World (δ × Ledger)),
      record.headers.holdsClaim = false → record.headers.holdsFailure = false →
        let ran := Action.on ((Producer.checkingIn stage.ledgered sent.beside).send record) world
        let plain := Action.on ((Producer.plain stage.keySerializer.beside
          stage.valueSerializer.beside sent.beside).send record) world
        ran.2.state.2 = world.state.2 →
          ran.1 = plain.1.mapError (encodeKey.reported record) ∧
          (∃ journal, ran.2 = plain.2.withJournal journal) ∧
          (encodeKey.Blind →
            (ran.1.mapError Fault.kind = plain.1.mapError Fault.kind ↔
              ∀ key fault, record.value.isSome →
                encodeKey record.topic record.headers record.key = .ok key →
                  encodeValue record.topic record.headers record.value = .error fault →
                    fault.kind = .storage))) ∧
    ∀ (fetched : List WireRecord) (world : World (δ × Ledger)),
      (∀ wire ∈ fetched, wire.headers.holdsClaim = false ∧ wire.headers.holdsFailure = false) →
        let polled := Action.on ((Consumer.checkingOut stage.depot.ledgered keyDeserializer.beside
          valueDeserializer.beside).poll fetched) world
        polled = Action.on ((Consumer.plain keyDeserializer.beside
          valueDeserializer.beside).poll fetched) world ∧ polled.2.state.2 = world.state.2 := by
  constructor
  · intro record world noClaim noFailure ran plain uncalled
    obtain ⟨plainEq, ranEq, same⟩ := stage.send_of_uncalled keys values noClaim noFailure uncalled
    have plainEq : plain.1 = _ := plainEq
    have ranEq : ran.1 = _ := ranEq
    rw [plainEq, ranEq]
    exact ⟨rfl, same, fun blind => ProducerRecord.kind_reported_iff blind _ _⟩
  · intro fetched world unreserved polled
    have stay (wire : WireRecord) (member : wire ∈ fetched) :
        Outcome.ofHeaders wire.headers = .ok .passthrough :=
      (Outcome.ofHeaders_eq_passthrough_iff _).mpr (unreserved wire member)
    have same : polled = _ := congrArg (Action.on · world) (Consumer.poll_checkingOut stay)
    rw [same]
    exact ⟨rfl, Consumer.leaves_poll_plain keyDeserializer valueDeserializer fetched world⟩

/-- A short text is stored as by the plain producer and polled as by the plain consumer. -/
theorem transparent_without_calls_of_text :
    let stage : CheckIn (RehearsalDepot × Nat) String String :=
      { depot := RehearsalDepot.depot .left, keySerializer := .text, valueSerializer := .text,
        policy := { threshold := 180 } }
    let sent : Cell (RehearsalDepot × Nat) Nat := .right
    let record : ProducerRecord String String := { topic := "t", value := some "v" }
    let world : World ((RehearsalDepot × Nat) × Ledger) := .initial 0 .empty (({}, 0), [])
    let ran := Action.on ((Producer.checkingIn stage.ledgered sent.beside).send record) world
    let plain := Action.on ((Producer.plain stage.keySerializer.beside stage.valueSerializer.beside
      sent.beside).send record) world
    let wire : WireRecord := ⟨"t", 0, 0, 0, none, some "v".toUTF8, .empty⟩
    let consumer : Consumer ((RehearsalDepot × Nat) × Ledger) String String :=
      .checkingOut stage.depot.ledgered Deserializer.text.beside Deserializer.text.beside
    let polled := Action.on (consumer.poll [wire]) ran.2
    ran.2.state.2 = [] ∧ ran.1 = .ok wire ∧ plain.1 = .ok wire ∧ Text.encoder.Blind ∧
      ran.1.mapError Fault.kind = plain.1.mapError Fault.kind ∧
      polled.2.state.2 = [] ∧ polled.1 = .ok ⟨[wire.received none (some "v")]⟩ := by
  intro stage sent record world ran plain wire consumer polled
  have transparent := transparent_without_calls stage sent Text.computes_encoder
    Text.computes_encoder Deserializer.text Deserializer.text
  have uncalled : ran.2.state.2 = [] := List.isEmpty_iff.mp (by decide +kernel)
  have stored : plain.1 = .ok wire := rfl
  have blind : Text.encoder.Blind := fun _ _ _ _ => rfl
  obtain ⟨sentEq, -, kinds⟩ := transparent.1 record world rfl rfl uncalled
  obtain ⟨polledEq, unpolled⟩ := transparent.2 [wire] ran.2 (by simp [wire]; decide)
  have ranEq : ran.1 = .ok wire := sentEq.trans (congrArg (Except.mapError _) stored)
  refine ⟨uncalled, ranEq, stored, blind, (kinds blind).mpr ?_, unpolled.trans uncalled, ?_⟩
  · rintro key fault - - ⟨⟩
  · exact (congrArg Prod.fst polledEq).trans (by decide +kernel)

/-- A value that its codec refuses ends the send with a fault of the storage, without a call of the
depot, and the plain producer with a fault of coding. -/
theorem kinds_differ_of_refused_value :
    let stage : CheckIn (RehearsalDepot × Nat) String String :=
      { depot := RehearsalDepot.depot .left, keySerializer := .text,
        valueSerializer := .failing "boom", policy := { threshold := 180 } }
    let sent : Cell (RehearsalDepot × Nat) Nat := .right
    let record : ProducerRecord String String := { topic := "t", value := some "v" }
    let world : World ((RehearsalDepot × Nat) × Ledger) := .initial 0 .empty (({}, 0), [])
    let ran := Action.on ((Producer.checkingIn stage.ledgered sent.beside).send record) world
    let plain := Action.on ((Producer.plain stage.keySerializer.beside stage.valueSerializer.beside
      sent.beside).send record) world
    stage.keySerializer.Computes Text.encoder ∧
      stage.valueSerializer.Computes (fun _ _ _ => .error (.coding (.other "boom" []))) ∧
      record.headers.holdsClaim = false ∧ record.headers.holdsFailure = false ∧
      ran.2.state.2 = world.state.2 ∧ ran.1.mapError Fault.kind = .error .storage ∧
        plain.1.mapError Fault.kind = .error .coding :=
  ⟨Text.computes_encoder, fun _ _ _ => rfl, rfl, rfl, rfl, rfl, rfl⟩

end PayloadDepot
