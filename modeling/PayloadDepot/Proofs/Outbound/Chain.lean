import PayloadDepot.Proofs.Outbound.NoSilentLoss

/-!
# Chains of stages

Several stages over one depot pass a record on to each other, each with the
outcome that it told in the headers.  A stage that finds the value checked in
does nothing.  A stage that finds a failure reported may check the value in all
the same, but the report stands first and counts.  So a chain stores a value
once at most, and a later success hides no earlier failure.
-/

namespace PayloadDepot

variable {δ κ ν : Type}

/-- The fault that a check-in was refused with. -/
def DepotEntry.refusal? : DepotEntry → Option Fault
  | checkIn _ _ (.error fault) => some fault
  | _ => none

/-- Whether an entry is of a check-in for a topic. -/
def DepotEntry.ChecksIn (topic : String) (entry : DepotEntry) : Prop :=
  ∃ payload answer, entry = .checkIn topic payload answer

/-- The headers after several outcomes were told in them. -/
def Headers.telling (headers : Headers) (outcomes : List Outcome) : Headers :=
  outcomes.foldl (fun told outcome => outcome.apply told) headers

theorem Headers.telling_concat (headers : Headers) (outcomes : List Outcome) (outcome : Outcome) :
    headers.telling (outcomes ++ [outcome]) = outcome.apply (headers.telling outcomes) := by
  simp [telling]

/-- The producer of one stage for each policy, over one depot and with one codec pair. -/
def Producer.chaining (depot : Depot δ) (keySerializer : Serializer δ κ)
    (valueSerializer : Serializer δ ν) (policies : List CheckInPolicy) (sent : Cell δ Nat) :
    Producer δ κ ν where
  keySerializer := keySerializer
  valueSerializer := .sealing valueSerializer
  interceptors := policies.map fun policy =>
    CheckIn.interceptor { depot, keySerializer, valueSerializer, policy }
  sent := sent

/-- How far a record has come in a chain after some calls of the depot: it is as it was, its value
was checked in by the only call, or its headers report the first refusal. -/
inductive Chained (encodeValue : Encoder ν) (record : ProducerRecord κ ν) :
    Ledger → ProducerRecord κ ν → Prop
  | untouched : Chained encodeValue record [] record
  | kept (payload : ByteArray) (reference : Reference)
      (encoded : encodeValue record.topic record.headers record.value = .ok (some payload)) :
      Chained encodeValue record [.checkIn record.topic payload (.ok reference)]
        (record.withOutcome (.externalized reference))
  | failed (calls : Ledger) (fault : Fault) (value : Option ν) (outcomes : List Outcome)
      (checkIns : ∀ entry ∈ calls, entry.ChecksIn record.topic)
      (first : calls.findSome? DepotEntry.refusal? = some fault)
      (told : Outcome.ofHeaders (record.headers.telling outcomes) =
        .ok (.failed (fault.report (record.attempted .whole)))) :
      Chained encodeValue record calls
        (record.replaceValue value (record.headers.telling outcomes))

namespace Chained

variable {encodeKey : Encoder κ} {encodeValue : Encoder ν} {record next last : ProducerRecord κ ν}
  {calls : Ledger} {before after : World (δ × Ledger)}

/-- A record whose failure is reported goes on with the report, whatever is told after it and
whichever calls were made meanwhile. -/
theorem withOutcome_of_failed {entries : Ledger} {fault : Fault} {value : Option ν}
    {outcomes : List Outcome} (later : Outcome)
    (checkIns : ∀ entry ∈ calls ++ entries, entry.ChecksIn record.topic)
    (first : calls.findSome? DepotEntry.refusal? = some fault)
    (told : Outcome.ofHeaders (record.headers.telling outcomes) =
      .ok (.failed (fault.report (record.attempted .whole)))) :
    Chained encodeValue record (calls ++ entries)
      ((record.replaceValue value (record.headers.telling outcomes)).withOutcome later) := by
  have still := Outcome.ofHeaders_apply_of_failed told later
  rw [← Headers.telling_concat] at still
  let passed := (record.replaceValue value (record.headers.telling outcomes)).withOutcome later
  have reached : Chained encodeValue record (calls ++ entries)
      (record.replaceValue passed.value (record.headers.telling (outcomes ++ [later]))) :=
    .failed _ fault _ _ checkIns (by simp [List.findSome?_append, first]) still
  rwa [Headers.telling_concat] at reached

/-- One stage after a reported failure: the failure that was reported first stays the one that
counts. -/
theorem step_of_failed {stage : CheckIn (δ × Ledger) κ ν} {depot : Depot δ}
    (ledgered : stage.depot = depot.ledgered) {fault : Fault} {value : Option ν}
    {outcomes : List Outcome} (checkIns : ∀ entry ∈ calls, entry.ChecksIn record.topic)
    (first : calls.findSome? DepotEntry.refusal? = some fault)
    (told : Outcome.ofHeaders (record.headers.telling outcomes) =
      .ok (.failed (fault.report (record.attempted .whole))))
    (settled : CheckIn.Settled stage encodeKey encodeValue
      (record.replaceValue value (record.headers.telling outcomes)) before last after) :
    ∃ entries, after.state.2 = before.state.2 ++ entries ∧
      Chained encodeValue record (calls ++ entries) last := by
  have another {payload : ByteArray} {answer : Except Fault Reference} :
      ∀ entry ∈ calls ++ [.checkIn record.topic payload answer],
        entry.ChecksIn record.topic := by
    intro entry member
    rcases List.mem_append.mp member with earlier | new
    · exact checkIns entry earlier
    · exact ⟨payload, answer, List.mem_singleton.mp new⟩
  cases settled with
  | stays journal verdict =>
      refine ⟨[], by simp, ?_⟩
      rw [List.append_nil]
      exact .failed calls fault value outcomes checkIns first told
  | refused journal refusal verdict =>
      refine ⟨[], by simp, ?_⟩
      exact withOutcome_of_failed _ (by simpa using checkIns) first told
  | failed journal payload refusal answered verdict answer =>
      rw [ledgered] at answer
      have entered := Depot.ledger_checkIn answer
      exact ⟨_, entered, withOutcome_of_failed _ another first told⟩
  | kept payload reference answered verdict answer =>
      rw [ledgered] at answer
      exact ⟨_, Depot.ledger_checkIn answer, withOutcome_of_failed _ another first told⟩

/-- One stage of a chain adds at most one call, and none after a call that succeeded. -/
theorem step {stage : CheckIn (δ × Ledger) κ ν} {depot : Depot δ}
    (ledgered : stage.depot = depot.ledgered) (noFailure : record.headers.holdsFailure = false)
    (encodes : ∃ encoded, record.encoded encodeKey encodeValue = .ok encoded)
    (chained : Chained encodeValue record calls next)
    (settled : CheckIn.Settled stage encodeKey encodeValue next before last after) :
    ∃ entries, after.state.2 = before.state.2 ++ entries ∧
      Chained encodeValue record (calls ++ entries) last := by
  cases chained with
  | untouched =>
      cases settled with
      | stays journal verdict => exact ⟨[], by simp, .untouched⟩
      | refused journal refusal verdict =>
          obtain ⟨-, refused⟩ := CheckInPolicy.verdict_eq_refused_iff.mp verdict
          obtain ⟨encoded, written⟩ := encodes
          rw [written] at refused
          cases refused
      | failed journal payload refusal answered verdict answer =>
          rw [ledgered] at answer
          have entered := Depot.ledger_checkIn answer
          refine ⟨_, entered, ?_⟩
          exact .failed _ refusal record.value [.failed (refusal.report (record.attempted .whole))]
            (by simp [DepotEntry.ChecksIn]) (by simp [DepotEntry.refusal?])
            (Outcome.ofHeaders_apply_failed_of_none noFailure _)
      | kept payload reference answered verdict answer =>
          rw [ledgered] at answer
          exact ⟨_, Depot.ledger_checkIn answer,
            .kept payload reference (CheckInPolicy.encode_of_large verdict)⟩
  | kept payload reference encoded =>
      have idle : stage.policy.verdict encodeKey encodeValue
          (record.withOutcome (.externalized reference)) before.clock = .stays :=
        CheckInPolicy.verdict_of_none rfl
      cases settled with
      | stays journal verdict => exact ⟨[], by simp, .kept payload reference encoded⟩
      | refused journal refusal verdict => cases idle.symm.trans verdict
      | failed journal again refusal answered verdict answer => cases idle.symm.trans verdict
      | kept again second answered verdict answer => cases idle.symm.trans verdict
  | failed calls fault value outcomes checkIns first told =>
      exact step_of_failed ledgered checkIns first told settled

/-- The stages of a chain, one after the other. -/
theorem run (depot : Depot δ) {keySerializer : Serializer (δ × Ledger) κ}
    {valueSerializer : Serializer (δ × Ledger) ν} (keys : keySerializer.Computes encodeKey)
    (values : valueSerializer.Computes encodeValue)
    (noFailure : record.headers.holdsFailure = false)
    (encodes : ∃ encoded, record.encoded encodeKey encodeValue = .ok encoded)
    (policies : List CheckInPolicy) (chained : Chained encodeValue record calls next)
    (world : World (δ × Ledger)) :
    let passed := Effect.on
      (Producer.intercept next (policies.map fun policy =>
        CheckIn.interceptor { depot := depot.ledgered, keySerializer, valueSerializer, policy }))
      world
    ∃ entries, passed.2.state.2 = world.state.2 ++ entries ∧
      Chained encodeValue record (calls ++ entries) passed.1 := by
  induction policies generalizing calls next world with
  | nil => exact ⟨[], by simp [Producer.intercept], by simpa [Producer.intercept] using chained⟩
  | cons policy later inductionHypothesis =>
      let stage : CheckIn (δ × Ledger) κ ν :=
        { depot := depot.ledgered, keySerializer, valueSerializer, policy }
      have settled : CheckIn.Settled stage encodeKey encodeValue next world _ _ :=
        CheckIn.settled_of_passes keys values (stage.passes_onSend next world)
      obtain ⟨first, entered, reached⟩ := chained.step rfl noFailure encodes settled
      obtain ⟨rest, behind, done⟩ :=
        inductionHypothesis reached (Effect.on (stage.onSend next) world).2
      refine ⟨first ++ rest, ?_, ?_⟩
      · rw [← List.append_assoc, ← entered]
        exact behind
      · rw [← List.append_assoc]
        exact done

end Chained

section Send

variable {keySerializer : Serializer (δ × Ledger) κ} {valueSerializer : Serializer (δ × Ledger) ν}
  {encodeKey : Encoder κ} {encodeValue : Encoder ν} {record : ProducerRecord κ ν}

/-- A chain writes the record that goes on as each of its stages alone would. -/
theorem Producer.write_chaining (depot : Depot δ) (keySerializer : Serializer δ κ)
    (valueSerializer : Serializer δ ν) (policies : List CheckInPolicy) (sent : Cell δ Nat) :
    (chaining depot keySerializer valueSerializer policies sent).write =
      (checkingIn { depot, keySerializer, valueSerializer } sent).write := rfl

/-- Every send through a chain passes the record on from stage to stage and then writes it. -/
theorem Producer.exists_chained (depot : Depot δ) (keys : keySerializer.Computes encodeKey)
    (values : valueSerializer.Computes encodeValue) (policies : List CheckInPolicy)
    (sent : Cell (δ × Ledger) Nat) (noFailure : record.headers.holdsFailure = false)
    (encodes : ∃ encoded, record.encoded encodeKey encodeValue = .ok encoded)
    (world : World (δ × Ledger)) :
    ∃ calls next before, Chained encodeValue record calls next ∧
      before.state.2 = world.state.2 ++ calls ∧
      Action.on ((chaining depot.ledgered keySerializer valueSerializer policies sent).send record)
          world =
        Action.on ((checkingIn { depot := depot.ledgered, keySerializer, valueSerializer }
          sent).write next) before := by
  obtain ⟨calls, entered, reached⟩ :=
    Chained.run depot keys values noFailure encodes policies .untouched world
  refine ⟨calls, _, _, reached, entered, ?_⟩
  rw [← write_chaining depot.ledgered keySerializer valueSerializer policies sent]
  refine on_send ?_ rfl
  intro interceptor member topic fault
  obtain ⟨policy, -, rfl⟩ := List.mem_map.mp member
  rfl

/-- A record carries as many references as calls were made for it. -/
theorem Carries.references {calls : Ledger} {wire : WireRecord}
    (noClaim : record.headers.holdsClaim = false)
    (carried : Carries encodeKey encodeValue record calls wire) :
    calls.length ≤ 1 ∧ (wire.headers.values Headers.claimKey).length = calls.length := by
  have bare : record.headers.values Headers.claimKey = [] :=
    Headers.values_of_not_contains noClaim
  obtain ⟨rfl, headers, -⟩ | ⟨payload, reference, rfl, headers, -⟩ := carried.value
  · simp [headers, bare]
  · simp [headers, bare]

/-- What the calls of a chain tell about the record that it writes: after no refusal it carries the
value or a reference, and after some the first one is reported. -/
theorem Chained.written {stage : CheckIn (δ × Ledger) κ ν} {sent : Cell δ Nat}
    (keys : stage.keySerializer.Computes encodeKey)
    (values : stage.valueSerializer.Computes encodeValue)
    (noClaim : record.headers.holdsClaim = false) (noFailure : record.headers.holdsFailure = false)
    (writesKey : ∀ outcomes, ∃ key,
      encodeKey record.topic (record.headers.telling outcomes) record.key = .ok key)
    (writesValue : ∃ bytes, encodeValue record.topic record.headers record.value = .ok bytes)
    {calls : Ledger} {next : ProducerRecord κ ν} (chained : Chained encodeValue record calls next)
    {before after : World (δ × Ledger)} {outcome : Except Fault WireRecord}
    (wrote : Action.on ((Producer.checkingIn stage sent.beside).write next) before =
      (outcome, after)) :
    match calls.findSome? DepotEntry.refusal? with
    | none => ∃ wire, outcome = .ok wire ∧ Carries encodeKey encodeValue record calls wire
    | some fault =>
        outcome = .error (.externalization (fault.report (record.attempted .whole))) := by
  cases chained with
  | untouched =>
      have stays : Outcome.ofHeaders record.headers = .ok .passthrough :=
        (Outcome.ofHeaders_eq_passthrough_iff _).mpr ⟨noClaim, noFailure⟩
      cases outcome with
      | ok wire => exact ⟨wire, rfl, CheckIn.carries_of_stays keys values stays wrote⟩
      | error fault =>
          obtain ⟨key, keyWritten⟩ := writesKey []
          obtain ⟨bytes, written⟩ := writesValue
          obtain ⟨-, refused | refused⟩ := Producer.of_write_error keys values.sealing wrote
          · cases keyWritten.symm.trans refused
          · rw [Encoder.sealed, stays] at refused
            cases written.symm.trans refused
  | kept payload reference encoded =>
      have referred := Outcome.ofHeaders_apply_externalized noClaim noFailure reference
      cases outcome with
      | ok wire => exact ⟨wire, rfl, CheckIn.carries_of_kept keys values referred encoded wrote⟩
      | error fault =>
          obtain ⟨key, keyWritten⟩ := writesKey [.externalized reference]
          obtain ⟨-, refused | refused⟩ := Producer.of_write_error keys values.sealing wrote
          · cases keyWritten.symm.trans refused
          · have sealed : encodeValue.sealed record.topic
                ((Outcome.externalized reference).apply record.headers) none = .error fault :=
              refused
            rw [Encoder.sealed, referred] at sealed
            cases sealed
  | failed calls fault value outcomes checkIns first told =>
      have told : Outcome.ofHeaders
          (record.replaceValue value (record.headers.telling outcomes)).headers = _ := told
      obtain ⟨cause, failed, rfl | refused⟩ :=
        CheckIn.write_of_failed keys values sent.beside told before
      · rw [first]
        exact (congrArg Prod.fst (wrote.symm.trans failed))
      · obtain ⟨key, keyWritten⟩ := writesKey outcomes
        cases keyWritten.symm.trans refused

theorem Chained.checksIn {calls : Ledger} {next : ProducerRecord κ ν}
    (chained : Chained encodeValue record calls next) :
    ∀ entry ∈ calls, entry.ChecksIn record.topic := by
  cases chained with
  | untouched => simp
  | kept payload reference encoded => simp [DepotEntry.ChecksIn]
  | failed calls fault value outcomes checkIns first told => exact checkIns

end Send

/-- Every send through every chain of stages over one depot, of a record without reserved headers
that the codec pair writes, its key beside whatever outcomes are told: it succeeds exactly if no
check-in was refused, the record then carries its value or the reference of the only call, and the
first refusal ends the send with its report, whatever was answered after it. -/
theorem chain_loses_nothing (depot : Depot δ) (policies : List CheckInPolicy) (sent : Cell δ Nat)
    {keySerializer : Serializer (δ × Ledger) κ} {valueSerializer : Serializer (δ × Ledger) ν}
    {encodeKey : Encoder κ} {encodeValue : Encoder ν}
    (keys : keySerializer.Computes encodeKey) (values : valueSerializer.Computes encodeValue)
    (record : ProducerRecord κ ν) (noClaim : record.headers.holdsClaim = false)
    (noFailure : record.headers.holdsFailure = false)
    (writesKey : ∀ outcomes, ∃ key,
      encodeKey record.topic (record.headers.telling outcomes) record.key = .ok key)
    (writesValue : ∃ bytes, encodeValue record.topic record.headers record.value = .ok bytes)
    (world : World (δ × Ledger)) :
    let ran := Action.on ((Producer.chaining depot.ledgered keySerializer valueSerializer policies
      sent.beside).send record) world
    ∃ calls, ran.2.state.2 = world.state.2 ++ calls ∧
      (∀ entry ∈ calls, entry.ChecksIn record.topic) ∧
      ((∃ wire, ran.1 = .ok wire) ↔ ∀ entry ∈ calls, entry.refusal? = none) ∧
      (∀ wire, ran.1 = .ok wire →
        calls.length ≤ 1 ∧ (wire.headers.values Headers.claimKey).length = calls.length ∧
          Carries encodeKey encodeValue record calls wire) ∧
      ∀ fault, calls.findSome? DepotEntry.refusal? = some fault →
        ran.1 = .error (.externalization (fault.report (record.attempted .whole))) := by
  intro ran
  have encodes : ∃ encoded, record.encoded encodeKey encodeValue = .ok encoded := by
    obtain ⟨key, keyWritten⟩ := writesKey []
    obtain ⟨bytes, valueWritten⟩ := writesValue
    exact ⟨(key, bytes), ProducerRecord.encoded_eq_ok_iff.mpr ⟨keyWritten, valueWritten⟩⟩
  obtain ⟨calls, next, before, chained, entered, course⟩ :=
    Producer.exists_chained depot keys values policies sent.beside noFailure encodes world
  let stage : CheckIn (δ × Ledger) κ ν :=
    { depot := depot.ledgered, keySerializer, valueSerializer }
  have keys : stage.keySerializer.Computes encodeKey := keys
  have values : stage.valueSerializer.Computes encodeValue := values
  rcases wrote : Action.on ((Producer.checkingIn stage sent.beside).write next) before with
    ⟨outcome, after⟩
  have kept : after.state.2 = before.state.2 := CheckIn.ledger_write keys values wrote
  have told := chained.written keys values noClaim noFailure writesKey writesValue wrote
  have ranEq : ran = (outcome, after) := course.trans wrote
  rw [ranEq]
  refine ⟨calls, kept.trans entered, chained.checksIn, ?_⟩
  rw [← List.findSome?_eq_none_iff]
  cases refused : calls.findSome? DepotEntry.refusal? with
  | none =>
      rw [refused] at told
      obtain ⟨wire, rfl, carried⟩ := told
      refine ⟨⟨fun _ => rfl, fun _ => ⟨wire, rfl⟩⟩, ?_, by simp⟩
      rintro stored ⟨⟩
      obtain ⟨once, references⟩ := carried.references noClaim
      exact ⟨once, references, carried⟩
  | some fault =>
      rw [refused] at told
      obtain rfl : outcome = _ := told
      refine ⟨by simp, by simp, ?_⟩
      rintro first ⟨⟩
      rfl

/-- The depot for rehearsals that is willing again after it has refused once. -/
def RehearsalDepot.recovering (place : Cell δ RehearsalDepot) : Depot δ :=
  { depot place with
    checkIn := fun _ payload => do
      match (← Action.lift place.load).refusal with
      | none => Action.lift (keep place payload)
      | some fault =>
          Action.lift (place.update fun depot => { depot with refusal := none })
          Action.fail fault }

/-- The second of two stages checks in what the first could not, and the send reports the first; if
the first succeeds, the second makes no call. -/
theorem chain_loses_nothing_of_text :
    let depot : Depot (RehearsalDepot × Nat) := RehearsalDepot.recovering .left
    let sent : Cell (RehearsalDepot × Nat) Nat := .right
    let record : ProducerRecord String String := { topic := "t", value := some "payload" }
    let chain : Producer ((RehearsalDepot × Nat) × Ledger) String String :=
      .chaining depot.ledgered .text .text [{ threshold := 0 }, { threshold := 1 }] sent.beside
    let refusal : Fault := .depot (.other "down")
    let ran (refusal : Option Fault) := Action.on (chain.send record)
      (.initial 0 .empty ((({ refusal } : RehearsalDepot), 0), []))
    (ran (some refusal)).1 =
        .error (.externalization (refusal.report (record.attempted .whole))) ∧
      (ran (some refusal)).2.state.2.map DepotEntry.refusal? = [some refusal, none] ∧
      (∃ wire, (ran none).1 = .ok wire) ∧
      (ran none).2.state.2.map DepotEntry.refusal? = [none] := by
  intro depot sent record chain refusal ran
  have passes (told : Option Fault) := chain_loses_nothing depot
    [{ threshold := 0 }, { threshold := 1 }] sent Text.computes_encoder Text.computes_encoder record
    rfl rfl (fun _ => ⟨none, rfl⟩) ⟨_, rfl⟩
    (.initial 0 .empty ((({ refusal := told } : RehearsalDepot), 0), []))
  have refusedOnce : (ran (some refusal)).2.state.2.map DepotEntry.refusal? =
      [some refusal, none] := by decide +kernel
  have calledOnce : (ran none).2.state.2.map DepotEntry.refusal? = [none] := by decide +kernel
  refine ⟨?_, refusedOnce, ?_, calledOnce⟩
  · obtain ⟨calls, entered, -, -, -, reported⟩ := passes (some refusal)
    apply reported
    have entered : (ran (some refusal)).2.state.2 = calls := entered
    have first : calls.findSome? DepotEntry.refusal? =
        (calls.map DepotEntry.refusal?).findSome? id := by
      rw [List.findSome?_map, Function.id_comp]
    rw [first, ← entered, refusedOnce]
    rfl
  · obtain ⟨calls, entered, -, succeeds, -⟩ := passes none
    have entered : (ran none).2.state.2 = calls := entered
    rw [entered] at calledOnce
    apply succeeds.mpr
    intro entry member
    have listed := List.mem_map_of_mem (f := DepotEntry.refusal?) member
    rw [calledOnce] at listed
    exact List.mem_singleton.mp listed

end PayloadDepot
