import PayloadDepot.Proofs.Fault.Report
import PayloadDepot.Proofs.Outbound.Threshold

/-!
# Failures told to the caller

A check-in that fails is reported in a header of the record that goes on, and the
sealed serializer reads the report there and ends the send with it.  What the
caller gets names the topic and shows every line of the fault and of its causes.
Only the key is written before that, beside the report: if it is refused there,
the caller gets the refusal instead.
-/

namespace PayloadDepot

variable {δ κ ν : Type}

/-- A serializer that writes what it has written once whenever it is asked, also beside an
outcome. -/
def Serializer.Steadfast (serializer : Serializer δ ν) : Prop :=
  ∀ {topic headers value bytes}, serializer.Gives topic headers value bytes →
    ∀ (outcome : Outcome) (world : World δ), ∃ again after,
      Action.on (serializer.serialize topic (outcome.apply headers) value) world =
        (.ok again, after)

theorem Serializer.Computes.steadfast {serializer : Serializer δ ν} {encode : Encoder ν}
    (computes : serializer.Computes encode) (blind : encode.Blind) : serializer.Steadfast := by
  intro topic headers value bytes gives outcome world
  refine ⟨bytes, world, ?_⟩
  rw [computes, Action.on_ofExcept, blind, computes.eq_of_gives gives]

namespace Producer

/-- The record that the interceptors of a producer leave, and the world in which it is written. -/
def intercepted (producer : Producer δ κ ν) (record : ProducerRecord κ ν) (world : World δ) :
    ProducerRecord κ ν × World δ :=
  Effect.on (intercept record producer.interceptors) world

/-- How the description of a failure gets to the caller of a send.  The record goes on with its
value, and with the bytes of the description under one more header, in which the description is
read as it was.  The key is written beside it, and if that succeeds, the send ends with the
description. -/
structure Tells (producer : Producer δ κ ν) (record : ProducerRecord κ ν) (description : String)
    (world : World δ) : Prop where
  value : (producer.intercepted record world).1.value = record.value
  headers : (producer.intercepted record world).1.headers.entries =
    record.headers.entries ++ [⟨Headers.failureKey, description.toUTF8⟩]
  read : Outcome.ofHeaders (producer.intercepted record world).1.headers =
    .ok (.failed description)
  raised : (Action.on (producer.send record) world).1 =
    (Action.on (producer.keySerializer.serialize record.topic
      (producer.intercepted record world).1.headers record.key)
      (producer.intercepted record world).2).1 >>= fun _ => .error (.externalization description)

section Told

variable {producer : Producer δ κ ν} {wrapped : Serializer δ ν} {record : ProducerRecord κ ν}
  {description : String} {world before : World δ} {key : Option ByteArray}

/-- A record whose headers tell a failure is not written: the sealed serializer gives the
description instead of bytes. -/
theorem on_write_of_told {after : World δ}
    (sealing : producer.valueSerializer = .sealing wrapped)
    (told : Outcome.ofHeaders record.headers = .ok (.failed description))
    (wrote : Action.on (producer.keySerializer.serialize record.topic record.headers record.key)
      world = (.ok key, after)) :
    Action.on (producer.write record) world = (.error (.externalization description), after) := by
  apply on_write_of_refused
  refine (Action.on_bind_of_ok wrote _).trans (Action.on_bind_of_error ?_ _)
  rw [sealing, Serializer.serialize_sealing_of_failed told, Action.on_fail]

theorem tells_of_intercepted (silent : Silent producer.interceptors)
    (sealing : producer.valueSerializer = .sealing wrapped)
    (noFailure : record.headers.holdsFailure = false)
    (passed : producer.intercepted record world =
      (record.withOutcome (.failed description), before)) :
    producer.Tells record description world := by
  have told : Outcome.ofHeaders (record.withOutcome (.failed description)).headers =
      .ok (.failed description) :=
    Outcome.ofHeaders_apply_failed_of_none noFailure description
  have course := on_send silent passed
  refine ⟨congrArg (·.1.value) passed, congrArg (·.1.headers.entries) passed, passed ▸ told, ?_⟩
  rw [passed, course]
  rcases again : Action.on (producer.keySerializer.serialize record.topic
    ((Outcome.failed description).apply record.headers) record.key) before
    with ⟨refusal | bytes, after⟩
  · rw [on_write_of_refused (Action.on_bind_of_error again _)]
    exact (congrArg (·.1 >>= fun _ => _) again).symm
  · rw [on_write_of_told sealing told again]
    exact (congrArg (·.1 >>= fun _ => _) again).symm

/-- A key that was written once is written again by a steadfast serializer, so that the send ends
with the description. -/
theorem Tells.ended (tells : producer.Tells record description world)
    (steadfast : producer.keySerializer.Steadfast)
    (given : producer.keySerializer.Gives record.topic record.headers record.key key) :
    (Action.on (producer.send record) world).1 = .error (.externalization description) := by
  have passed : (producer.intercepted record world).1.headers =
      (Outcome.failed description).apply record.headers :=
    congrArg Headers.mk tells.headers
  obtain ⟨again, after, wrote⟩ :=
    steadfast given (.failed description) (producer.intercepted record world).2
  rw [tells.raised, passed, wrote]
  rfl

end Told

end Producer

/-- Whatever a check-in among some calls failed with is reported in the record that goes on, and
the key was written before that. -/
def Ledger.Reported (keySerializer : Serializer δ κ) (record next : ProducerRecord κ ν)
    (delivered : Delivered) (calls : Ledger) : Prop :=
  ∀ entry ∈ calls, ∀ fault, entry.checkInFault? = some fault →
    next = record.withOutcome (.failed (fault.report (record.attempted delivered))) ∧
    ∃ key, keySerializer.Gives record.topic record.headers record.key key

namespace Ledger.Reported

variable {keySerializer : Serializer δ κ} {record next : ProducerRecord κ ν}
  {delivered : Delivered} {entry : DepotEntry} {key : Option ByteArray}

theorem none : Reported keySerializer record next delivered [] := by
  intro entry member
  cases member

theorem kept (answered : entry.checkInFault? = Option.none) :
    Reported keySerializer record next delivered [entry] := by
  intro other member fault failed
  rw [List.mem_singleton.mp member, answered] at failed
  cases failed

theorem failed {fault : Fault} (answered : entry.checkInFault? = some fault)
    (given : keySerializer.Gives record.topic record.headers record.key key) :
    Reported keySerializer record
      (record.withOutcome (.failed (fault.report (record.attempted delivered)))) delivered
      [entry] := by
  intro other member told failed
  rw [List.mem_singleton.mp member, answered] at failed
  rw [← Option.some.inj failed]
  exact ⟨rfl, key, given⟩

end Ledger.Reported

namespace CheckIn

variable {stage : CheckIn δ κ ν} {record next : ProducerRecord κ ν}
  {world before : World (δ × Ledger)}

/-- What is entered into the ledger while a record passes the interceptor is reported in it. -/
theorem exists_reported_of_passes (passes : stage.ledgered.Passes record world next before) :
    ∃ calls, before.state.2 = world.state.2 ++ calls ∧
      Ledger.Reported stage.ledgered.keySerializer record next .whole calls := by
  cases passes with
  | valueless absent => exact ⟨[], by simp, .none⟩
  | refused fault journal after present encoded
  | unwritten key after present encoded
  | small key payload journal after present encoded small =>
      exact ⟨[], by simp [ledger_of_encoded encoded], .none⟩
  | failed key payload fault journal middle after present encoded large answer =>
      have entered := Depot.ledger_checkIn answer
      rw [ledger_of_encoded encoded] at entered
      obtain ⟨last, wrote, -⟩ := ProducerRecord.exists_of_encode_ok encoded
      exact ⟨_, entered, .failed rfl (.of_on wrote)⟩
  | kept key payload reference middle after present encoded large answer =>
      have entered := Depot.ledger_checkIn answer
      rw [ledger_of_encoded encoded] at entered
      exact ⟨_, entered, .kept rfl⟩

end CheckIn

namespace StreamCheckIn

variable {stage : StreamCheckIn δ κ} {record next : ProducerRecord κ StreamHandle}
  {world before : World (δ × Ledger)}

theorem exists_reported_of_passes (passes : stage.ledgered.Passes record world next before) :
    ∃ calls, before.state.2 = world.state.2 ++ calls ∧
      Ledger.Reported stage.ledgered.keySerializer record next .streamed calls := by
  cases passes with
  | undeclared fault journal declared => exact ⟨[], by simp, .none⟩
  | valueless absent => exact ⟨[], by simp, .none⟩
  | refused fault journal after written
  | small length key journal after declared written small =>
      exact ⟨[], by simp [ledger_of_written written], .none⟩
  | failed source length key fault journal middle after holds declared written large answer =>
      have entered := Depot.ledger_checkInStream answer
      rw [ledger_of_written written] at entered
      exact ⟨_, entered, .failed rfl (.of_on written)⟩
  | kept source length key reference middle after holds declared written large answer =>
      have entered := Depot.ledger_checkInStream answer
      rw [ledger_of_written written] at entered
      exact ⟨_, entered, .kept rfl⟩

end StreamCheckIn

/-- Whatever a check-in fails with while a producer sends a record is told to the caller, beside
what was attempted; before it is asked for, the key is written by the serializer of the stage. -/
def Producer.TellsFaults (producer : Producer (δ × Ledger) κ ν)
    (keySerializer : Serializer (δ × Ledger) κ) (record : ProducerRecord κ ν) (attempt : String) :
    Prop :=
  ∀ world, ∃ calls, (Action.on (producer.send record) world).2.state.2 = world.state.2 ++ calls ∧
    ∀ entry ∈ calls, ∀ fault, entry.checkInFault? = some fault →
      (∃ key, keySerializer.Gives record.topic record.headers record.key key) ∧
        ∃ description, producer.Tells record description world ∧
          (Fault.externalization description).message = fault.told attempt

/-- With keys that are written whenever they were written once, a check-in that fails ends the
send. -/
theorem Producer.TellsFaults.raised {producer : Producer (δ × Ledger) κ ν}
    {record : ProducerRecord κ ν} {attempt : String} {world : World (δ × Ledger)} {fault : Fault}
    (tells : producer.TellsFaults producer.keySerializer record attempt)
    (steadfast : producer.keySerializer.Steadfast) (blank : world.state.2 = [])
    (refused : fault ∈
      (Action.on (producer.send record) world).2.state.2.filterMap DepotEntry.checkInFault?) :
    ∃ raised, (Action.on (producer.send record) world).1 = .error raised ∧
      raised.message = fault.told attempt := by
  obtain ⟨calls, entered, told⟩ := tells world
  rw [blank, List.nil_append] at entered
  obtain ⟨entry, member, failed⟩ := List.mem_filterMap.mp refused
  obtain ⟨⟨key, given⟩, description, tells, text⟩ := told entry (entered ▸ member) fault failed
  exact ⟨_, tells.ended steadfast given, text⟩

theorem Producer.tellsFaults_of_reported {interceptor : SendInterceptor (δ × Ledger) κ ν}
    {keySerializer : Serializer (δ × Ledger) κ} {keyWriter : Serializer δ κ}
    {valueWriter : Serializer δ ν} {sent : Cell δ Nat} {record : ProducerRecord κ ν}
    {delivered : Delivered}
    (idle : ∀ topic fault, interceptor.onAcknowledge topic fault = pure ())
    (noFailure : record.headers.holdsFailure = false)
    (reported : ∀ world, ∃ calls next before, calls.Reported keySerializer record next delivered ∧
      Effect.on (intercept record [interceptor]) world = (next, before) ∧
        before.state.2 = world.state.2 ++ calls) :
    (Producer.sealing interceptor keyWriter.beside valueWriter.beside sent.beside).TellsFaults
      keySerializer record (record.attempted delivered) := by
  intro world
  obtain ⟨calls, next, before, reported, passed, entered⟩ := reported world
  have silent := silent_singleton idle
  refine ⟨calls, ?_, fun entry member fault failed => ?_⟩
  · rw [on_send silent passed]
    exact (leaves_write rfl rfl rfl _ _).trans entered
  · obtain ⟨rfl, key, given⟩ := reported entry member fault failed
    exact ⟨⟨key, given⟩, fault.report (record.attempted delivered),
      tells_of_intercepted silent rfl noFailure passed, fault.message_externalization_report _⟩

/-- Whatever a depot refuses a payload or a stream with gets to the caller of the send: the record
that goes on holds the report byte for byte, and the send ends with it once the key is written
beside it.  The text names the topic and shows every line of the fault and of each of its causes, so
it is told of no other failure. -/
theorem failure_reaches_caller (depot : Depot δ) (policy : CheckInPolicy) (sent : Cell δ Nat)
    (keySerializer keyWriter : Serializer δ κ) :
    (∀ (valueSerializer valueWriter : Serializer δ ν) (record : ProducerRecord κ ν),
      record.headers.holdsFailure = false →
        let stage : CheckIn δ κ ν := { depot, keySerializer, valueSerializer, policy }
        let producer : Producer (δ × Ledger) κ ν :=
          .sealing stage.ledgered.interceptor keyWriter.beside valueWriter.beside sent.beside
        producer.TellsFaults keySerializer.beside record
          ("check-in failed for topic " ++ record.topic)) ∧
    (∀ (streamWriter : Serializer δ StreamHandle) (record : ProducerRecord κ StreamHandle),
      record.headers.holdsFailure = false →
        let stage : StreamCheckIn δ κ := { depot, keySerializer, policy }
        let producer : Producer (δ × Ledger) κ StreamHandle :=
          .sealing stage.ledgered.interceptor keyWriter.beside streamWriter.beside sent.beside
        producer.TellsFaults keySerializer.beside record
          ("streaming check-in failed for topic " ++ record.topic)) ∧
    ∀ (fault other : Fault) (attempt : String), fault.told attempt = other.told attempt →
      fault.message = other.message ∧ fault.chain = other.chain := by
  refine ⟨fun valueSerializer valueWriter record noFailure => ?_,
    fun streamWriter record noFailure => ?_, fun fault other attempt => Fault.told_eq_iff.mp⟩
  · intro stage producer
    have attempted : record.attempted .whole = "check-in failed for topic " ++ record.topic := rfl
    rw [← attempted]
    refine Producer.tellsFaults_of_reported (fun _ _ => rfl) noFailure fun world => ?_
    obtain ⟨calls, entered, reported⟩ :=
      CheckIn.exists_reported_of_passes (stage.ledgered.passes_onSend record world)
    exact ⟨calls, _, _, reported, Producer.on_intercept_of_ok rfl, entered⟩
  · intro stage producer
    have attempted : record.attempted .streamed =
        "streaming check-in failed for topic " ++ record.topic := rfl
    rw [← attempted]
    refine Producer.tellsFaults_of_reported (fun _ _ => rfl) noFailure fun world => ?_
    obtain ⟨next, before, passes, passed⟩ := stage.ledgered.passes_intercept record world
    obtain ⟨calls, entered, reported⟩ := StreamCheckIn.exists_reported_of_passes passes
    exact ⟨calls, next, before, reported, passed, entered⟩

/-- Several causes are numbered, of which one spans two lines and one is empty, also those of a
fault of the operating system; a fault that nothing caused is indented. -/
theorem failure_reaches_caller_of_causes :
    let depot : Depot (RehearsalDepot × Nat) := RehearsalDepot.depot .left
    let sent : Cell (RehearsalDepot × Nat) Nat := .right
    let policy : CheckInPolicy := { threshold := 0 }
    let whole : CheckIn (RehearsalDepot × Nat) String String :=
      { depot, keySerializer := .text, valueSerializer := .text, policy }
    let streamed : StreamCheckIn (RehearsalDepot × Nat) String :=
      { depot, keySerializer := .text, policy }
    let record : ProducerRecord String String :=
      { topic := "orders", key := some "k", value := some "payload" }
    let streams : ProducerRecord String StreamHandle :=
      { topic := "orders", value := some ⟨0⟩,
        headers := Headers.empty.add Headers.lengthKey (Bytes.wordBytes 4) }
    let burning : Fault :=
      .depotBy (.objectNotUploaded "s3://orders/1") (.texts ["disk\non fire", "", "end"])
    let lost : Fault :=
      .io { kind := .other, text := "connection lost", causes := ["reset", "cable\ncut"] }
    let full : Fault := .depot (.other "disk\nfull")
    let refusing (fault : Fault) : World ((RehearsalDepot × Nat) × Ledger) :=
      .initial 0 .empty (({ refusal := some fault }, 0), [])
    let ran (fault : Fault) :=
      Action.on (Producer.send (.sealing whole.ledgered.interceptor (Serializer.beside .text)
        (Serializer.beside .text) sent.beside) record) (refusing fault)
    let ranStreamed :=
      Action.on (Producer.send (.sealing streamed.ledgered.interceptor (Serializer.beside .text)
        (Serializer.beside .stream) sent.beside) streams) (refusing full)
    record.headers.holdsFailure = false ∧ streams.headers.holdsFailure = false ∧
      (∃ raised, (ran burning).1 = .error raised ∧ raised.message = "\n".intercalate
        ["Claim check interceptor error:", "check-in failed for topic orders", "", "Caused by:",
          "    0: Claim check backend error: could not upload s3://orders/1", "    1: disk",
          "       on fire", "    2: ", "    3: end"]) ∧
      (∃ raised, (ran lost).1 = .error raised ∧ raised.message = "\n".intercalate
        ["Claim check interceptor error:", "check-in failed for topic orders", "", "Caused by:",
          "    0: I/O error: connection lost", "    1: connection lost", "    2: reset",
          "    3: cable", "       cut"]) ∧
      ∃ raised, ranStreamed.1 = .error raised ∧ raised.message = "\n".intercalate
        ["Claim check interceptor error:", "streaming check-in failed for topic orders", "",
          "Caused by:", "    Claim check backend error: disk", "    full"] := by
  intro depot sent policy whole streamed record streams burning lost full refusing ran ranStreamed
  have steadfast : (Serializer.beside .text :
      Serializer ((RehearsalDepot × Nat) × Ledger) String).Steadfast :=
    Text.computes_encoder.beside.steadfast fun _ _ _ _ => rfl
  obtain ⟨wholes, others, -⟩ :=
    failure_reaches_caller depot policy sent (.text : Serializer _ String) .text
  have raised (fault : Fault)
      (refused : fault ∈ (ran fault).2.state.2.filterMap DepotEntry.checkInFault?) :=
    (wholes (.text : Serializer _ String) .text record rfl).raised steadfast rfl refused
  refine ⟨rfl, rfl, ?_, ?_, ?_⟩
  · obtain ⟨raised, outcome, text⟩ := raised burning (by decide +kernel)
    exact ⟨raised, outcome, text.trans (by decide +kernel)⟩
  · obtain ⟨raised, outcome, text⟩ := raised lost (by decide +kernel)
    exact ⟨raised, outcome, text.trans (by decide +kernel)⟩
  · have refused : full ∈ ranStreamed.2.state.2.filterMap DepotEntry.checkInFault? := by
      decide +kernel
    obtain ⟨raised, outcome, text⟩ := (others .stream streams rfl).raised steadfast rfl refused
    exact ⟨raised, outcome, text.trans (by decide +kernel)⟩

/-- A producer whose serializer of keys refuses the key tells its caller the refusal, and not what
the check-in failed with. -/
theorem failure_hidden_by_key :
    let depot : Depot (RehearsalDepot × Nat) := RehearsalDepot.depot .left
    let sent : Cell (RehearsalDepot × Nat) Nat := .right
    let stage : CheckIn (RehearsalDepot × Nat) String String :=
      { depot, keySerializer := .text, valueSerializer := .text, policy := { threshold := 0 } }
    let producer : Producer ((RehearsalDepot × Nat) × Ledger) String String :=
      .sealing stage.ledgered.interceptor (Serializer.beside (.failing "boom"))
        (Serializer.beside .text) sent.beside
    let record : ProducerRecord String String :=
      { topic := "orders", key := some "k", value := some "payload" }
    let full : Fault := .depot (.other "disk full")
    let ran := Action.on (producer.send record)
      (.initial 0 .empty (({ refusal := some full }, 0), []))
    record.headers.holdsFailure = false ∧
      ran.2.state.2.filterMap DepotEntry.checkInFault? = [full] ∧
        ∃ raised, ran.1 = .error raised ∧ raised.message = "Serialization error: boom" := by
  intro depot sent stage producer record full ran
  have ended : ran.1 = .error (.coding (.other "boom" [])) := by
    decide +kernel
  exact ⟨rfl, by decide +kernel, _, ended, by decide +kernel⟩

end PayloadDepot
