import PayloadDepot.Outbound.CheckIn
import PayloadDepot.Proofs.Claim
import PayloadDepot.Proofs.Outbound.Producer

/-!
# The course of a send

The serializers of a producer may do anything when they are asked: read from
somewhere, count, fail now and then.  A record passes the interceptor by what
they and the depot answer there, and is written by what they answer afterwards.
If they only compute, a verdict on the record says which record goes on and
whether the depot is asked for it.  Together this describes every send over every
depot.
-/

namespace PayloadDepot

variable {δ κ ν : Type}

/-- The producer of one interceptor, with serializers of its own; that of values is sealed. -/
def Producer.sealing (interceptor : SendInterceptor δ κ ν) (keySerializer : Serializer δ κ)
    (valueSerializer : Serializer δ ν) (sent : Cell δ Nat) : Producer δ κ ν where
  keySerializer := keySerializer
  valueSerializer := .sealing valueSerializer
  interceptors := [interceptor]
  sent := sent

/-- The producer of a stage that checks values in: its serializer of values is sealed. -/
def Producer.checkingIn (stage : CheckIn δ κ ν) (sent : Cell δ Nat) : Producer δ κ ν where
  keySerializer := stage.keySerializer
  valueSerializer := .sealing stage.valueSerializer
  interceptors := [stage.interceptor]
  sent := sent

/-- What becomes of a record before its value is looked at again: it stays as it is, a codec
refuses it, or its payload is over the threshold. -/
inductive CheckInPolicy.Verdict where
  | stays
  | refused (fault : Fault)
  | large (payload : ByteArray)

namespace CheckInPolicy

/-- The estimated size of the record of a key and a value of some length. -/
def sizeOf (policy : CheckInPolicy) (record : ProducerRecord κ ν) (key : Option ByteArray)
    (length : Nat) (now : Int) : Nat :=
  policy.estimator key (some length) record.headers (record.timestamp.getD now)

/-- The verdict on a record, from what the codecs compute for it. -/
def verdict (policy : CheckInPolicy) (encodeKey : Encoder κ) (encodeValue : Encoder ν)
    (record : ProducerRecord κ ν) (now : Int) : Verdict :=
  match record.value with
  | none => .stays
  | some value =>
      match encodeKey record.topic record.headers record.key with
      | .error fault => .refused fault
      | .ok key =>
          match encodeValue record.topic record.headers (some value) with
          | .error fault => .refused fault
          | .ok none => .stays
          | .ok (some payload) =>
              if policy.sizeOf record key payload.size now ≤ policy.threshold then .stays
              else .large payload

section Verdicts

variable {policy : CheckInPolicy} {encodeKey : Encoder κ} {encodeValue : Encoder ν}
  {record : ProducerRecord κ ν} {now : Int} {payload : ByteArray} {fault : Fault}

/-- The verdict on a record with a value is on what the codecs give for the whole of it. -/
theorem verdict_of_some (present : record.value.isSome) :
    policy.verdict encodeKey encodeValue record now =
      match record.encoded encodeKey encodeValue with
      | .error fault => .refused fault
      | .ok (_, none) => .stays
      | .ok (key, some payload) =>
          if policy.sizeOf record key payload.size now ≤ policy.threshold then .stays
          else .large payload := by
  obtain ⟨value, given⟩ := Option.isSome_iff_exists.mp present
  rw [verdict, ProducerRecord.encoded, given]
  dsimp only
  cases encodeKey record.topic record.headers record.key with
  | error refusal => rfl
  | ok key =>
      cases encodeValue record.topic record.headers (some value) with
      | error refusal => rfl
      | ok bytes => cases bytes <;> rfl

theorem verdict_of_none (absent : record.value = none) :
    policy.verdict encodeKey encodeValue record now = .stays := by
  rw [verdict, absent]

theorem verdict_eq_refused_iff : policy.verdict encodeKey encodeValue record now = .refused fault ↔
    record.value.isSome ∧ record.encoded encodeKey encodeValue = .error fault := by
  cases given : record.value with
  | none => simp [verdict_of_none given]
  | some value =>
      rw [verdict_of_some (by simp [given])]
      rcases record.encoded encodeKey encodeValue with refusal | ⟨key, _ | payload⟩
      · simp
      · simp
      · dsimp only
        split <;> simp

theorem verdict_eq_large_iff : policy.verdict encodeKey encodeValue record now = .large payload ↔
    record.value.isSome ∧ ∃ key, record.encoded encodeKey encodeValue = .ok (key, some payload) ∧
      policy.threshold < policy.sizeOf record key payload.size now := by
  cases given : record.value with
  | none => simp [verdict_of_none given]
  | some value =>
      rw [verdict_of_some (by simp [given])]
      rcases record.encoded encodeKey encodeValue with refusal | ⟨key, _ | bytes⟩
      · simp
      · simp
      · dsimp only
        split
        · next small =>
          constructor
          · rintro ⟨⟩
          · rintro ⟨-, _, ⟨⟩, large⟩
            exact absurd small (Nat.not_le_of_lt large)
        · next large =>
          constructor
          · rintro ⟨⟩
            exact ⟨rfl, key, rfl, Nat.lt_of_not_le large⟩
          · rintro ⟨-, _, ⟨⟩, -⟩
            rfl

theorem encode_of_large
    (large : policy.verdict encodeKey encodeValue record now = .large payload) :
    encodeValue record.topic record.headers record.value = .ok (some payload) := by
  obtain ⟨-, key, encoded, -⟩ := verdict_eq_large_iff.mp large
  exact (ProducerRecord.encoded_eq_ok_iff.mp encoded).2

theorem encodeKey_of_large
    (large : policy.verdict encodeKey encodeValue record now = .large payload) :
    ∃ key, encodeKey record.topic record.headers record.key = .ok key := by
  obtain ⟨-, key, encoded, -⟩ := verdict_eq_large_iff.mp large
  exact ⟨key, (ProducerRecord.encoded_eq_ok_iff.mp encoded).1⟩

end Verdicts

theorem on_isOver (policy : CheckInPolicy) (delivered : Delivered) (record : ProducerRecord κ ν)
    (key : Option ByteArray) (length : Nat) (world : World δ) :
    ∃ journal, Effect.on (policy.isOver delivered record key length) world =
      if policy.sizeOf record key length world.clock ≤ policy.threshold then
        (false, world.withJournal journal)
      else (true, world) := by
  simp only [isOver, Effect.on_bind, ProducerRecord.on_timestampOrNow]
  change ∃ journal, Effect.on (if policy.sizeOf record key length world.clock ≤ policy.threshold
    then _ else _) world = _
  split
  · exact ⟨_, rfl⟩
  · exact ⟨world.journal, rfl⟩

end CheckInPolicy

namespace ProducerRecord

variable {attempt : Action δ (Option Reference)} {world after : World δ}

theorem on_settle_of_stays (record : ProducerRecord κ ν) (delivered : Delivered)
    (ran : Action.on attempt world = (.ok none, after)) :
    Effect.on (record.settle delivered attempt) world = (record, after) := by
  simp only [settle, Effect.on_bind, Effect.on_attempt, ran, Effect.on_pure]

theorem on_settle_of_kept (record : ProducerRecord κ ν) (delivered : Delivered)
    {reference : Reference}
    (ran : Action.on attempt world = (.ok (some reference), after)) :
    Effect.on (record.settle delivered attempt) world =
      (record.withOutcome (.externalized reference), after) := by
  simp only [settle, Effect.on_bind, Effect.on_attempt, ran, Effect.on_pure]

theorem on_settle_of_error (record : ProducerRecord κ ν) (delivered : Delivered) {fault : Fault}
    (ran : Action.on attempt world = (.error fault, after)) :
    ∃ journal, Effect.on (record.settle delivered attempt) world =
      (record.withOutcome (.failed (fault.report (record.attempted delivered))),
        after.withJournal journal) := by
  simp only [settle, Effect.on_bind, Effect.on_attempt, ran, World.on_log, Effect.on_pure]
  exact ⟨_, rfl⟩

end ProducerRecord

namespace CheckIn

section Passes

variable {stage : CheckIn δ κ ν} {record : ProducerRecord κ ν} {world : World δ}

/-- What the serializers of a stage answer when they are asked for the whole record. -/
def encode (stage : CheckIn δ κ ν) (record : ProducerRecord κ ν) :
    Action δ (Option ByteArray × Option ByteArray) :=
  record.encode stage.keySerializer stage.valueSerializer

/-- How a record passes the interceptor: the record that goes on and the world after it, for each
way in which the serializers and the depot answer. -/
inductive Passes (stage : CheckIn δ κ ν) (record : ProducerRecord κ ν) (world : World δ) :
    ProducerRecord κ ν → World δ → Prop
  | valueless (absent : record.value = none) : Passes stage record world record world
  | refused (fault : Fault) (journal : Array JournalLine) (after : World δ)
      (present : record.value.isSome)
      (encoded : Action.on (stage.encode record) world = (.error fault, after)) :
      Passes stage record world
        (record.withOutcome (.failed (fault.report (record.attempted .whole))))
        (after.withJournal journal)
  | unwritten (key : Option ByteArray) (after : World δ) (present : record.value.isSome)
      (encoded : Action.on (stage.encode record) world = (.ok (key, none), after)) :
      Passes stage record world record after
  | small (key : Option ByteArray) (payload : ByteArray) (journal : Array JournalLine)
      (after : World δ) (present : record.value.isSome)
      (encoded : Action.on (stage.encode record) world = (.ok (key, some payload), after))
      (small : stage.policy.sizeOf record key payload.size after.clock ≤ stage.policy.threshold) :
      Passes stage record world record (after.withJournal journal)
  | failed (key : Option ByteArray) (payload : ByteArray) (fault : Fault)
      (journal : Array JournalLine) (middle after : World δ) (present : record.value.isSome)
      (encoded : Action.on (stage.encode record) world = (.ok (key, some payload), middle))
      (large : stage.policy.threshold < stage.policy.sizeOf record key payload.size middle.clock)
      (answer : Action.on (stage.depot.checkIn record.topic payload) middle =
        (.error fault, after)) :
      Passes stage record world
        (record.withOutcome (.failed (fault.report (record.attempted .whole))))
        (after.withJournal journal)
  | kept (key : Option ByteArray) (payload : ByteArray) (reference : Reference)
      (middle after : World δ) (present : record.value.isSome)
      (encoded : Action.on (stage.encode record) world = (.ok (key, some payload), middle))
      (large : stage.policy.threshold < stage.policy.sizeOf record key payload.size middle.clock)
      (answer : Action.on (stage.depot.checkIn record.topic payload) middle =
        (.ok reference, after)) :
      Passes stage record world (record.withOutcome (.externalized reference)) after

/-- What an attempt does with the key and the value that it was given. -/
def dispose (stage : CheckIn δ κ ν) (record : ProducerRecord κ ν) (key : Option ByteArray) :
    Option ByteArray → Action δ (Option Reference)
  | none => pure none
  | some payload => do
      if ← Action.lift (stage.policy.isOver .whole record key payload.size) then
        return some (← stage.depot.checkIn record.topic payload)
      else return none

/-- An attempt at a value that is there asks both serializers first. -/
theorem attempt_eq (present : record.value.isSome) :
    stage.attempt record =
      stage.encode record >>= fun encoded => stage.dispose record encoded.1 encoded.2 := by
  obtain ⟨value, given⟩ := Option.isSome_iff_exists.mp present
  rw [encode, ProducerRecord.encode_bind, attempt, given]
  refine bind_congr fun key => bind_congr fun bytes => ?_
  cases bytes <;> rfl

theorem passes_onSend (stage : CheckIn δ κ ν) (record : ProducerRecord κ ν) (world : World δ) :
    Passes stage record world (Effect.on (stage.onSend record) world).1
      (Effect.on (stage.onSend record) world).2 := by
  rw [onSend]
  cases given : record.value with
  | none =>
      have idle : Action.on (stage.attempt record) world = (.ok none, world) := by
        rw [attempt, given]
        rfl
      rw [record.on_settle_of_stays .whole idle]
      exact .valueless given
  | some value =>
      have present : record.value.isSome := by simp [given]
      have attempted := congrArg (Action.on · world) (stage.attempt_eq present)
      rcases encoded : Action.on (stage.encode record) world with ⟨fault | ⟨key, bytes⟩, middle⟩
      · obtain ⟨journal, settled⟩ := record.on_settle_of_error .whole
          (attempted.trans (Action.on_bind_of_error encoded _))
        rw [settled]
        exact .refused fault journal middle present encoded
      · replace attempted := attempted.trans (Action.on_bind_of_ok encoded _)
        cases bytes with
        | none =>
            rw [record.on_settle_of_stays .whole attempted]
            exact .unwritten key middle present encoded
        | some payload =>
            obtain ⟨journal, decided⟩ :=
              stage.policy.on_isOver .whole record key payload.size middle
            rw [dispose, Action.on_lift_bind, decided] at attempted
            by_cases small :
                stage.policy.sizeOf record key payload.size middle.clock ≤ stage.policy.threshold
            · rw [if_pos small] at attempted
              rw [record.on_settle_of_stays .whole attempted]
              exact .small key payload journal middle present encoded small
            · rw [if_neg small] at attempted
              have large := Nat.lt_of_not_le small
              rcases answer : Action.on (stage.depot.checkIn record.topic payload) middle with
                ⟨fault | reference, after⟩
              · obtain ⟨noted, settled⟩ := record.on_settle_of_error .whole
                  (attempted.trans (Action.on_bind_of_error answer _))
                rw [settled]
                exact .failed key payload fault noted middle after present encoded large answer
              · rw [record.on_settle_of_kept .whole
                  (attempted.trans (Action.on_bind_of_ok answer _))]
                exact .kept key payload reference middle after present encoded large answer

/-- Every send passes the record and then writes what goes on, whatever it is written with. -/
theorem exists_passes {producer : Producer δ κ ν}
    (stages : producer.interceptors = [stage.interceptor]) (record : ProducerRecord κ ν)
    (world : World δ) :
    ∃ next before, Passes stage record world next before ∧
      Action.on (producer.send record) world = Action.on (producer.write next) before := by
  refine ⟨_, _, passes_onSend stage record world, ?_⟩
  have silent : Producer.Silent producer.interceptors := by
    rw [stages]
    exact Producer.silent_singleton fun _ _ => rfl
  refine Producer.on_send silent ?_
  rw [stages]
  exact Producer.on_intercept_of_ok rfl

end Passes

variable {stage : CheckIn δ κ ν} {encodeKey : Encoder κ} {encodeValue : Encoder ν}

/-- How a record comes to be written: the record that goes on and the world that it is written in,
for each verdict and each answer of the depot. -/
inductive Settled (stage : CheckIn δ κ ν) (encodeKey : Encoder κ) (encodeValue : Encoder ν)
    (record : ProducerRecord κ ν) (world : World δ) : ProducerRecord κ ν → World δ → Prop
  | stays (journal : Array JournalLine)
      (verdict : stage.policy.verdict encodeKey encodeValue record world.clock = .stays) :
      Settled stage encodeKey encodeValue record world record (world.withJournal journal)
  | refused (journal : Array JournalLine) (fault : Fault)
      (verdict : stage.policy.verdict encodeKey encodeValue record world.clock = .refused fault) :
      Settled stage encodeKey encodeValue record world
        (record.withOutcome (.failed (fault.report (record.attempted .whole))))
        (world.withJournal journal)
  | failed (journal : Array JournalLine) (payload : ByteArray) (fault : Fault) (after : World δ)
      (verdict : stage.policy.verdict encodeKey encodeValue record world.clock = .large payload)
      (answer : Action.on (stage.depot.checkIn record.topic payload) world =
        (.error fault, after)) :
      Settled stage encodeKey encodeValue record world
        (record.withOutcome (.failed (fault.report (record.attempted .whole))))
        (after.withJournal journal)
  | kept (payload : ByteArray) (reference : Reference) (after : World δ)
      (verdict : stage.policy.verdict encodeKey encodeValue record world.clock = .large payload)
      (answer : Action.on (stage.depot.checkIn record.topic payload) world =
        (.ok reference, after)) :
      Settled stage encodeKey encodeValue record world
        (record.withOutcome (.externalized reference)) after

/-- If the codecs compute, the verdict tells how a record passes. -/
theorem settled_of_passes (keys : stage.keySerializer.Computes encodeKey)
    (values : stage.valueSerializer.Computes encodeValue) {record next : ProducerRecord κ ν}
    {world before : World δ} (passes : Passes stage record world next before) :
    Settled stage encodeKey encodeValue record world next before := by
  have ran : Action.on (stage.encode record) world =
      (record.encoded encodeKey encodeValue, world) := record.on_encode keys values world
  have computed {outcome : Except Fault (Option ByteArray × Option ByteArray)} {after : World δ}
      (encoded : Action.on (stage.encode record) world = (outcome, after)) :
      record.encoded encodeKey encodeValue = outcome ∧ world = after :=
    Prod.mk.inj (ran.symm.trans encoded)
  cases passes with
  | valueless absent => exact .stays world.journal (CheckInPolicy.verdict_of_none absent)
  | refused fault journal after present encoded =>
      obtain ⟨refused, rfl⟩ := computed encoded
      exact .refused journal fault (CheckInPolicy.verdict_eq_refused_iff.mpr ⟨present, refused⟩)
  | unwritten key after present encoded =>
      obtain ⟨unwritten, rfl⟩ := computed encoded
      refine .stays world.journal ?_
      rw [CheckInPolicy.verdict_of_some present, unwritten]
  | small key payload journal after present encoded small =>
      obtain ⟨written, rfl⟩ := computed encoded
      refine .stays journal ?_
      rw [CheckInPolicy.verdict_of_some present, written]
      exact if_pos small
  | failed key payload fault journal middle after present encoded large answer =>
      obtain ⟨written, rfl⟩ := computed encoded
      exact .failed journal payload fault after
        (CheckInPolicy.verdict_eq_large_iff.mpr ⟨present, key, written, large⟩) answer
  | kept key payload reference middle after present encoded large answer =>
      obtain ⟨written, rfl⟩ := computed encoded
      exact .kept payload reference before
        (CheckInPolicy.verdict_eq_large_iff.mpr ⟨present, key, written, large⟩) answer

/-- Every send settles the record and then writes what goes on. -/
theorem exists_settled (keys : stage.keySerializer.Computes encodeKey)
    (values : stage.valueSerializer.Computes encodeValue) (sent : Cell δ Nat)
    (record : ProducerRecord κ ν) (world : World δ) :
    ∃ next before, Settled stage encodeKey encodeValue record world next before ∧
      Action.on ((Producer.checkingIn stage sent).send record) world =
        Action.on ((Producer.checkingIn stage sent).write next) before := by
  have stages : (Producer.checkingIn stage sent).interceptors = [stage.interceptor] := rfl
  obtain ⟨next, before, passes, course⟩ := exists_passes stages record world
  exact ⟨next, before, settled_of_passes keys values passes, course⟩

/-- A record whose value stays goes on as it is. -/
theorem Settled.of_stays {record next : ProducerRecord κ ν} {world before : World δ}
    (settled : stage.Settled encodeKey encodeValue record world next before)
    (verdict : stage.policy.verdict encodeKey encodeValue record world.clock = .stays) :
    next = record ∧ ∃ journal, before = world.withJournal journal := by
  cases settled with
  | stays journal stays => exact ⟨rfl, journal, rfl⟩
  | refused journal fault refused => cases verdict.symm.trans refused
  | failed journal payload fault after large answer => cases verdict.symm.trans large
  | kept payload reference after large answer => cases verdict.symm.trans large

/-- A payload over the threshold is put to the depot, and its answer tells which record goes on. -/
theorem Settled.of_large {record next : ProducerRecord κ ν} {world before : World δ}
    {payload : ByteArray} (settled : stage.Settled encodeKey encodeValue record world next before)
    (verdict : stage.policy.verdict encodeKey encodeValue record world.clock = .large payload) :
    (∃ fault after journal,
        Action.on (stage.depot.checkIn record.topic payload) world = (.error fault, after) ∧
        next = record.withOutcome (.failed (fault.report (record.attempted .whole))) ∧
        before = after.withJournal journal) ∨
      ∃ reference,
        Action.on (stage.depot.checkIn record.topic payload) world = (.ok reference, before) ∧
        next = record.withOutcome (.externalized reference) := by
  cases settled with
  | stays journal stays => cases verdict.symm.trans stays
  | refused journal fault refused => cases verdict.symm.trans refused
  | failed journal bytes fault after large answer =>
      cases verdict.symm.trans large
      exact .inl ⟨fault, after, journal, answer, rfl, rfl⟩
  | kept bytes reference after large answer =>
      cases verdict.symm.trans large
      exact .inr ⟨reference, answer, rfl⟩

/-- What ends in a fault gives nothing, whatever comes before the fault. -/
theorem bind_error_ne_ok {α β : Type} (outcome : Except Fault α) (fault : Fault) (value : β) :
    (outcome >>= fun _ => .error fault) ≠ .ok value := by
  cases outcome <;> nofun

/-- A record that reports a failure is not written: the report becomes the fault of the send, unless
the key is refused beside it. -/
theorem on_write_of_told (keys : stage.keySerializer.Computes encodeKey)
    (values : stage.valueSerializer.Computes encodeValue) (sent : Cell δ Nat)
    {next : ProducerRecord κ ν} {description : String}
    (told : Outcome.ofHeaders next.headers = .ok (.failed description))
    (before : World δ) :
    Action.on ((Producer.checkingIn stage sent).write next) before =
      (encodeKey next.topic next.headers next.key >>= fun _ =>
        .error (.externalization description), before) := by
  have ended : encodeValue.sealed next.topic next.headers next.value =
      .error (.externalization description) := by
    simp [Encoder.sealed, told]
  have computed : Action.on ((Producer.checkingIn stage sent).write next) before = _ :=
    Producer.on_write_of_computes keys values.sealing next before
  rw [computed, ProducerRecord.written, ended]
  cases encodeKey next.topic next.headers next.key <;> rfl

theorem write_of_failed (keys : stage.keySerializer.Computes encodeKey)
    (values : stage.valueSerializer.Computes encodeValue) (sent : Cell δ Nat)
    {next : ProducerRecord κ ν} {description : String}
    (told : Outcome.ofHeaders next.headers = .ok (.failed description))
    (before : World δ) :
    ∃ fault, Action.on ((Producer.checkingIn stage sent).write next) before =
        (.error fault, before) ∧
      (fault = .externalization description ∨
        encodeKey next.topic next.headers next.key = .error fault) := by
  have wrote := on_write_of_told keys values sent told before
  cases keyEq : encodeKey next.topic next.headers next.key with
  | ok key => exact ⟨_, by rw [wrote, keyEq]; rfl, .inl rfl⟩
  | error fault => exact ⟨fault, by rw [wrote, keyEq]; rfl, .inr rfl⟩

end CheckIn

end PayloadDepot
