import Mathlib.Control.Monad.Basic
import PayloadDepot.Proofs.Outbound.Send
import PayloadDepot.Proofs.Storage.Ledger
import PayloadDepot.Rehearsal.Depot

/-!
# No silent loss

A record that was sent carries its value or a reference to it, whatever the depot
answers: either no payload was checked in and the stored value is what the codec
gives, or exactly one was, with exactly the bytes of the codec, and its reference
stands behind the headers of the record.  A payload that could not be checked in
ends the send, with its report unless the key is refused beside that.
-/

namespace PayloadDepot

variable {δ κ ν : Type}

/-- What a stored record has of the one that was sent, if some calls of the depot were made for
it. -/
structure Carries (encodeKey : Encoder κ) (encodeValue : Encoder ν)
    (record : ProducerRecord κ ν) (calls : Ledger) (wire : WireRecord) : Prop where
  topic : wire.topic = record.topic
  key : encodeKey record.topic wire.headers record.key = .ok wire.key
  partition : wire.partition = record.partition.getD 0
  timestamp : ∀ stamp, record.timestamp = some stamp → wire.timestamp = stamp
  value :
    (calls = [] ∧ wire.headers = record.headers ∧
        encodeValue record.topic record.headers record.value = .ok wire.value) ∨
      ∃ payload reference,
        calls = [.checkIn record.topic payload (.ok reference)] ∧
        wire.headers = record.headers.add Headers.claimKey reference.toBytes ∧
        encodeValue record.topic record.headers record.value = .ok (some payload) ∧
        wire.value = some ByteArray.empty

/-- A codec could not write the key or the value of a record. -/
def Unwritable (encodeKey : Encoder κ) (encodeValue : Encoder ν)
    (record : ProducerRecord κ ν) : Prop :=
  (∃ headers fault, encodeKey record.topic headers record.key = .error fault) ∨
    ∃ fault, encodeValue record.topic record.headers record.value = .error fault

namespace CheckInPolicy

variable {policy : CheckInPolicy} {encodeKey : Encoder κ} {encodeValue : Encoder ν}
  {record : ProducerRecord κ ν} {now : Int}

theorem unwritable_of_refused {fault : Fault}
    (refused : policy.verdict encodeKey encodeValue record now = .refused fault) :
    Unwritable encodeKey encodeValue record := by
  obtain ⟨-, encoded⟩ := verdict_eq_refused_iff.mp refused
  rcases ProducerRecord.refused_of_encoded encoded with keyRefused | valueRefused
  · exact .inl ⟨_, _, keyRefused⟩
  · exact .inr ⟨_, valueRefused⟩

end CheckInPolicy

namespace CheckIn

variable {stage : CheckIn (δ × Ledger) κ ν} {sent : Cell δ Nat} {encodeKey : Encoder κ}
  {encodeValue : Encoder ν} {record next : ProducerRecord κ ν} {before after : World (δ × Ledger)}
  {wire : WireRecord} {fault : Fault} {payload : ByteArray} {reference : Reference}

/-- Writing a record calls no depot. -/
theorem ledger_write (keys : stage.keySerializer.Computes encodeKey)
    (values : stage.valueSerializer.Computes encodeValue) {outcome : Except Fault WireRecord}
    (wrote : Action.on ((Producer.checkingIn stage sent.beside).write next) before =
      (outcome, after)) :
    after.state.2 = before.state.2 := by
  cases outcome with
  | error fault =>
      obtain ⟨rfl, -⟩ := Producer.of_write_error keys values.sealing wrote
      rfl
  | ok wire =>
      obtain ⟨key, value, -, -, -, rfl⟩ := Producer.of_write_ok keys values.sealing wrote
      rfl

theorem carries_of_stays (keys : stage.keySerializer.Computes encodeKey)
    (values : stage.valueSerializer.Computes encodeValue)
    (stays : Outcome.ofHeaders record.headers = .ok .passthrough)
    (wrote : Action.on ((Producer.checkingIn stage sent.beside).write record) before =
      (.ok wire, after)) :
    Carries encodeKey encodeValue record [] wire := by
  obtain ⟨key, value, keyEq, valueEq, rfl, -⟩ := Producer.of_write_ok keys values.sealing wrote
  rw [Encoder.sealed, stays] at valueEq
  exact {
    topic := rfl
    key := keyEq
    partition := rfl
    timestamp := fun stamp given => by simp [ProducerRecord.stored, given]
    value := .inl ⟨rfl, rfl, valueEq⟩ }

theorem carries_of_kept (keys : stage.keySerializer.Computes encodeKey)
    (values : stage.valueSerializer.Computes encodeValue)
    (told : Outcome.ofHeaders (record.withOutcome (.externalized reference)).headers =
      .ok (.externalized reference))
    (encoded : encodeValue record.topic record.headers record.value = .ok (some payload))
    (wrote : Action.on ((Producer.checkingIn stage sent.beside).write
      (record.withOutcome (.externalized reference))) before = (.ok wire, after)) :
    Carries encodeKey encodeValue record [.checkIn record.topic payload (.ok reference)] wire := by
  obtain ⟨key, value, keyEq, valueEq, rfl, -⟩ := Producer.of_write_ok keys values.sealing wrote
  rw [Encoder.sealed, told, Except.ok.injEq] at valueEq
  exact {
    topic := rfl
    key := keyEq
    partition := rfl
    timestamp := fun stamp given => by
      simp [ProducerRecord.stored, ProducerRecord.withOutcome, ProducerRecord.replaceValue, given]
    value := .inr ⟨payload, reference, rfl, rfl, encoded, valueEq.symm⟩ }

theorem unwritable_of_stays (keys : stage.keySerializer.Computes encodeKey)
    (values : stage.valueSerializer.Computes encodeValue)
    (stays : Outcome.ofHeaders record.headers = .ok .passthrough)
    (wrote : Action.on ((Producer.checkingIn stage sent.beside).write record) before =
      (.error fault, after)) :
    Unwritable encodeKey encodeValue record := by
  obtain ⟨-, keyEq | valueEq⟩ := Producer.of_write_error keys values.sealing wrote
  · exact .inl ⟨_, _, keyEq⟩
  · rw [Encoder.sealed, stays] at valueEq
    exact .inr ⟨_, valueEq⟩

theorem unwritable_of_kept (keys : stage.keySerializer.Computes encodeKey)
    (values : stage.valueSerializer.Computes encodeValue)
    (told : Outcome.ofHeaders (record.withOutcome (.externalized reference)).headers =
      .ok (.externalized reference))
    (wrote : Action.on ((Producer.checkingIn stage sent.beside).write
      (record.withOutcome (.externalized reference))) before = (.error fault, after)) :
    Unwritable encodeKey encodeValue record := by
  obtain ⟨-, keyEq | valueEq⟩ := Producer.of_write_error keys values.sealing wrote
  · exact .inl ⟨_, _, keyEq⟩
  · rw [Encoder.sealed, told] at valueEq
    cases valueEq

end CheckIn

/-- Every send of a record without reserved headers, over every depot: whatever is stored carries
the value or the reference of the one payload that was checked in, a check-in that failed ends the
send with its report once the key is written beside that, and nothing else ends it but a codec. -/
theorem send_loses_nothing (depot : Depot δ) (policy : CheckInPolicy) (sent : Cell δ Nat)
    {keySerializer : Serializer (δ × Ledger) κ} {valueSerializer : Serializer (δ × Ledger) ν}
    {encodeKey : Encoder κ} {encodeValue : Encoder ν}
    (keys : keySerializer.Computes encodeKey) (values : valueSerializer.Computes encodeValue)
    (record : ProducerRecord κ ν) (noClaim : record.headers.holdsClaim = false)
    (noFailure : record.headers.holdsFailure = false) (world : World (δ × Ledger)) :
    let stage : CheckIn (δ × Ledger) κ ν :=
      { depot := depot.ledgered, keySerializer, valueSerializer, policy }
    let ran := Action.on ((Producer.checkingIn stage sent.beside).send record) world
    ∃ calls, ran.2.state.2 = world.state.2 ++ calls ∧
      (∀ wire, ran.1 = .ok wire → Carries encodeKey encodeValue record calls wire) ∧
      (∀ payload fault, .checkIn record.topic payload (.error fault) ∈ calls →
        let report := fault.report (record.attempted .whole)
        (ran.1 =
          encodeKey record.topic ((Outcome.failed report).apply record.headers) record.key >>=
            fun _ => .error (.externalization report)) ∧
        (encodeKey.Blind → ran.1 = .error (.externalization report))) ∧
      ∀ fault, ran.1 = .error fault →
        (∃ payload cause, calls = [.checkIn record.topic payload (.error cause)]) ∨
          Unwritable encodeKey encodeValue record := by
  intro stage ran
  have keys : stage.keySerializer.Computes encodeKey := keys
  have values : stage.valueSerializer.Computes encodeValue := values
  obtain ⟨next, before, settled, course⟩ :=
    CheckIn.exists_settled keys values sent.beside record world
  have stays : Outcome.ofHeaders record.headers = .ok .passthrough :=
    (Outcome.ofHeaders_eq_passthrough_iff _).mpr ⟨noClaim, noFailure⟩
  have told (description : String) :
      Outcome.ofHeaders (record.withOutcome (.failed description)).headers =
        .ok (.failed description) :=
    Outcome.ofHeaders_apply_failed_of_none noFailure description
  rcases wrote : Action.on ((Producer.checkingIn stage sent.beside).write next) before with
    ⟨outcome, after⟩
  have kept : after.state.2 = before.state.2 := CheckIn.ledger_write keys values wrote
  have ranEq : ran = (outcome, after) := course.trans wrote
  rw [ranEq]
  cases settled with
  | stays journal verdict =>
      refine ⟨[], by simp [kept, World.withJournal], ?_, by simp, ?_⟩
      · rintro wire ⟨⟩
        exact CheckIn.carries_of_stays keys values stays wrote
      · rintro fault ⟨⟩
        exact .inr (CheckIn.unwritable_of_stays keys values stays wrote)
  | refused journal fault verdict =>
      obtain ⟨cause, failed, -⟩ := CheckIn.write_of_failed keys values sent.beside (told _) _
      rw [failed] at wrote
      cases wrote
      refine ⟨[], by simp [World.withJournal], by simp, by simp, ?_⟩
      intro _ _
      exact .inr (CheckInPolicy.unwritable_of_refused verdict)
  | failed journal payload fault answered verdict answer =>
      obtain ⟨rfl, rfl⟩ := Prod.mk.inj
        (wrote.symm.trans (CheckIn.on_write_of_told keys values sent.beside (told _) _))
      have asked : Action.on (depot.ledgered.checkIn record.topic payload) world =
          (.error fault, answered) := answer
      have entered := Depot.ledger_checkIn asked
      refine ⟨[.checkIn record.topic payload (.error fault)], entered, ?_, ?_,
        fun _ _ => .inl ⟨payload, fault, rfl⟩⟩
      · intro wire written
        exact absurd written (CheckIn.bind_error_ne_ok _ _ _)
      · rintro sentPayload entry member
        obtain ⟨rfl, rfl⟩ : payload = sentPayload ∧ fault = entry := by
          simpa [eq_comm] using member
        refine ⟨rfl, fun blind => ?_⟩
        obtain ⟨key, written⟩ := CheckInPolicy.encodeKey_of_large verdict
        let report := fault.report (record.attempted .whole)
        have again : encodeKey record.topic ((Outcome.failed report).apply record.headers)
            record.key = .ok key :=
          (blind _ _ _ _).trans written
        change encodeKey record.topic ((Outcome.failed report).apply record.headers) record.key >>=
          _ = _
        rw [again]
        rfl
  | kept payload reference answered verdict answer =>
      have asked : Action.on (depot.ledgered.checkIn record.topic payload) world =
          (.ok reference, before) := answer
      have entered := Depot.ledger_checkIn asked
      have referred := Outcome.ofHeaders_apply_externalized noClaim noFailure reference
      have encoded := CheckInPolicy.encode_of_large verdict
      refine ⟨[.checkIn record.topic payload (.ok reference)], kept.trans entered, ?_, by simp, ?_⟩
      · rintro wire ⟨⟩
        exact CheckIn.carries_of_kept keys values referred encoded wrote
      · rintro fault ⟨⟩
        exact .inr (CheckIn.unwritable_of_kept keys values referred wrote)

/-- A text over the threshold is sent with one call of the depot, and its record carries it. -/
theorem send_loses_nothing_of_text :
    let depot : Depot (RehearsalDepot × Nat) :=
      RehearsalDepot.depot .left
    let sent : Cell (RehearsalDepot × Nat) Nat := .right
    let record : ProducerRecord String String :=
      { topic := "orders", key := some "k", value := some "payload" }
    let world : World ((RehearsalDepot × Nat) × Ledger) := .initial 0 .empty (({}, 0), [])
    let stage : CheckIn ((RehearsalDepot × Nat) × Ledger) String String :=
      { depot := depot.ledgered, keySerializer := .text, valueSerializer := .text,
        policy := { threshold := 0 } }
    let ran := Action.on ((Producer.checkingIn stage sent.beside).send record) world
    record.headers.holdsClaim = false ∧ record.headers.holdsFailure = false ∧
      ∃ calls wire, ran.1 = .ok wire ∧ ran.2.state.2 = calls ∧ calls.length = 1 ∧
        Carries Text.encoder Text.encoder record calls wire := by
  intro depot sent record world stage ran
  have noClaim : record.headers.holdsClaim = false := by decide
  have noFailure : record.headers.holdsFailure = false := by decide
  obtain ⟨calls, entered, carried, -⟩ :=
    send_loses_nothing depot { threshold := 0 } sent Text.computes_encoder Text.computes_encoder
      record noClaim noFailure world
  have passed : ran.1.toBool = true := by decide +kernel
  have once : ran.2.state.2.length = 1 := by decide +kernel
  cases outcome : ran.1 with
  | error fault => simp [outcome, Except.toBool] at passed
  | ok wire =>
      refine ⟨noClaim, noFailure, calls, wire, rfl, entered, ?_, carried wire outcome⟩
      exact (congrArg List.length entered).symm.trans once

/-- A key codec may refuse the key beside the report of a failed check-in, and then the report is
not told; one that is sealed itself leaves out the key of a value that was checked in. -/
theorem send_heeds_key :
    let depot : Depot (RehearsalDepot × Nat) := RehearsalDepot.depot .left
    let sent : Cell (RehearsalDepot × Nat) Nat := .right
    let record : ProducerRecord String String :=
      { topic := "orders", key := some "k", value := some "payload" }
    let ran (encodeKey : Encoder String) (refusal : Option Fault) :=
      let stage : CheckIn ((RehearsalDepot × Nat) × Ledger) String String :=
        { depot := depot.ledgered, keySerializer := encodeKey.serializer "key",
          valueSerializer := .text, policy := { threshold := 0 } }
      Action.on ((Producer.checkingIn stage sent.beside).send record)
        (.initial 0 .empty (({ refusal }, 0), []))
    let boom : Fault := .coding (.other "boom" [])
    let wary : Encoder String := fun topic headers value =>
      if headers.holdsFailure then .error boom else Text.encoder topic headers value
    let full : Fault := .depot (.other "disk full")
    let refused := ran wary (some full)
    (refused.2.state.2.filterMap DepotEntry.checkInFault? = [full] ∧ refused.1 = .error boom) ∧
      Text.encoder.sealed "orders" record.headers record.key = .ok (some "k".toUTF8) ∧
        ∃ wire, (ran Text.encoder.sealed none).1 = .ok wire ∧ wire.key = some ByteArray.empty := by
  intro depot sent record ran boom wary full refused
  have stored : (ran Text.encoder.sealed none).1.toOption.bind (·.key) = some ByteArray.empty := by
    decide +kernel
  refine ⟨⟨by decide +kernel, by decide +kernel⟩, by decide +kernel, ?_⟩
  cases outcome : (ran Text.encoder.sealed none).1 with
  | error fault => simp [outcome, Except.toOption] at stored
  | ok wire => exact ⟨wire, rfl, by simpa [outcome, Except.toOption] using stored⟩

end PayloadDepot
