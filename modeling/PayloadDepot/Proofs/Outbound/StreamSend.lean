import PayloadDepot.Outbound.StreamCheckIn
import PayloadDepot.Proofs.Outbound.Send
import PayloadDepot.Proofs.Stream.Handle

/-!
# The course of a send of a stream

A producer that checks streams in reads the declared length twice: its
interceptor decides by it, and the depot or the serializer reads the stream for
it.  A record that declares none passes the interceptor by and is refused by the
serializer, before a depot was asked or a byte was read.  Only the serializer of
keys is asked before that, which may do anything.
-/

namespace PayloadDepot

variable {δ κ : Type}

/-- The producer of a stage that checks streams in: its serializer of streams is sealed. -/
def Producer.checkingInStreams (stage : StreamCheckIn δ κ) (sent : Cell δ Nat) :
    Producer δ κ StreamHandle where
  keySerializer := stage.keySerializer
  valueSerializer := .sealing .stream
  interceptors := [stage.interceptor]
  sent := sent

namespace StreamCheckIn

section Passes

variable {stage : StreamCheckIn δ κ} {record : ProducerRecord κ StreamHandle} {world : World δ}

/-- How a record of a stream passes the interceptor.  What the serializer of keys answers is asked
for only if the record declares a length and has a stream. -/
inductive Passes (stage : StreamCheckIn δ κ) (record : ProducerRecord κ StreamHandle)
    (world : World δ) : ProducerRecord κ StreamHandle → World δ → Prop
  | undeclared (fault : Fault) (journal : Array JournalLine)
      (declared : record.headers.declaredLength = .error fault) :
      Passes stage record world record (world.withJournal journal)
  | valueless (absent : record.value = none) : Passes stage record world record world
  | refused (fault : Fault) (journal : Array JournalLine) (after : World δ)
      (written : Action.on (stage.keySerializer.serialize record.topic record.headers record.key)
        world = (.error fault, after)) :
      Passes stage record world
        (record.withOutcome (.failed (fault.report (record.attempted .streamed))))
        (after.withJournal journal)
  | small (length : Nat) (key : Option ByteArray) (journal : Array JournalLine)
      (after : World δ) (declared : record.headers.declaredLength = .ok length)
      (written : Action.on (stage.keySerializer.serialize record.topic record.headers record.key)
        world = (.ok key, after))
      (small : stage.policy.sizeOf record key length after.clock ≤ stage.policy.threshold) :
      Passes stage record world record (after.withJournal journal)
  | failed (source : StreamHandle) (length : Nat) (key : Option ByteArray) (fault : Fault)
      (journal : Array JournalLine) (middle after : World δ)
      (holds : record.value = some source)
      (declared : record.headers.declaredLength = .ok length)
      (written : Action.on (stage.keySerializer.serialize record.topic record.headers record.key)
        world = (.ok key, middle))
      (large : stage.policy.threshold < stage.policy.sizeOf record key length middle.clock)
      (answer : Action.on (stage.depot.checkInStream record.topic source length) middle =
        (.error fault, after)) :
      Passes stage record world
        (record.withOutcome (.failed (fault.report (record.attempted .streamed))))
        (after.withJournal journal)
  | kept (source : StreamHandle) (length : Nat) (key : Option ByteArray) (reference : Reference)
      (middle after : World δ) (holds : record.value = some source)
      (declared : record.headers.declaredLength = .ok length)
      (written : Action.on (stage.keySerializer.serialize record.topic record.headers record.key)
        world = (.ok key, middle))
      (large : stage.policy.threshold < stage.policy.sizeOf record key length middle.clock)
      (answer : Action.on (stage.depot.checkInStream record.topic source length) middle =
        (.ok reference, after)) :
      Passes stage record world (record.withOutcome (.externalized reference)) after

theorem passes_settle {length : Nat} (declared : record.headers.declaredLength = .ok length)
    (world : World δ) :
    Passes stage record world
      (Effect.on (record.settle .streamed (stage.attempt record length)) world).1
      (Effect.on (record.settle .streamed (stage.attempt record length)) world).2 := by
  cases given : record.value with
  | none =>
      have idle : Action.on (stage.attempt record length) world = (.ok none, world) := by
        rw [attempt, given]
        rfl
      rw [record.on_settle_of_stays .streamed idle]
      exact .valueless given
  | some source =>
      have attempted : Action.on (stage.attempt record length) world = Action.on (do
          let key ← stage.keySerializer.serialize record.topic record.headers record.key
          if ← Action.lift (stage.policy.isOver .streamed record key length) then
            return some (← stage.depot.checkInStream record.topic source length)
          else return none) world := by
        rw [attempt, given]
      rcases written : Action.on (stage.keySerializer.serialize record.topic record.headers
        record.key) world with ⟨fault | key, middle⟩
      · obtain ⟨journal, settled⟩ := record.on_settle_of_error .streamed
          (attempted.trans (Action.on_bind_of_error written _))
        rw [settled]
        exact .refused fault journal middle written
      · replace attempted := attempted.trans (Action.on_bind_of_ok written _)
        obtain ⟨journal, decided⟩ := stage.policy.on_isOver .streamed record key length middle
        rw [Action.on_lift_bind, decided] at attempted
        by_cases small : stage.policy.sizeOf record key length middle.clock ≤ stage.policy.threshold
        · rw [if_pos small] at attempted
          rw [record.on_settle_of_stays .streamed attempted]
          exact .small length key journal middle declared written small
        · rw [if_neg small] at attempted
          have large := Nat.lt_of_not_le small
          rcases answer : Action.on (stage.depot.checkInStream record.topic source length)
            middle with ⟨fault | reference, after⟩
          · obtain ⟨noted, settled⟩ := record.on_settle_of_error .streamed
              (attempted.trans (Action.on_bind_of_error answer _))
            rw [settled]
            exact .failed source length key fault noted middle after given declared written large
                answer
          · rw [record.on_settle_of_kept .streamed
              (attempted.trans (Action.on_bind_of_ok answer _))]
            exact .kept source length key reference middle after given declared written large answer

theorem passes_intercept (stage : StreamCheckIn δ κ) (record : ProducerRecord κ StreamHandle)
    (world : World δ) :
    ∃ next before, Passes stage record world next before ∧
      Effect.on (Producer.intercept record [stage.interceptor]) world = (next, before) := by
  cases declared : record.headers.declaredLength with
  | error fault =>
      have refused : Action.on (stage.interceptor.onSend record) world = (.error fault, world) := by
        change Action.on (Action.ofExcept record.headers.declaredLength >>= _) world = _
        rw [Action.on_ofExcept_bind, declared]
      obtain ⟨journal, passed⟩ := Producer.on_intercept_of_error refused
      exact ⟨_, _, .undeclared fault journal declared, passed⟩
  | ok length =>
      have settled : Action.on (stage.interceptor.onSend record) world = Action.on
          (Action.lift (record.settle .streamed (stage.attempt record length))) world := by
        change Action.on (Action.ofExcept record.headers.declaredLength >>= _) world = _
        rw [Action.on_ofExcept_bind, declared]
      exact ⟨_, _, passes_settle declared world, Producer.on_intercept_of_ok settled⟩

/-- Every send passes the record and then writes what goes on, whatever its value is written
with. -/
theorem exists_passes {producer : Producer δ κ StreamHandle}
    (stages : producer.interceptors = [stage.interceptor])
    (record : ProducerRecord κ StreamHandle) (world : World δ) :
    ∃ next before, Passes stage record world next before ∧
      Action.on (producer.send record) world = Action.on (producer.write next) before := by
  obtain ⟨next, before, passes, intercepted⟩ := passes_intercept stage record world
  rw [← stages] at intercepted
  have silent : Producer.Silent producer.interceptors := by
    rw [stages]
    exact Producer.silent_singleton fun _ _ => rfl
  exact ⟨next, before, passes, Producer.on_send silent intercepted⟩

end Passes

variable {stage : StreamCheckIn δ κ} {encodeKey : Encoder κ}
  {record next : ProducerRecord κ StreamHandle} {source : StreamHandle} {key : Option ByteArray}

/-- How a record of a stream comes to be written: the record that goes on and the world that it is
written in, for each declared length and each answer of the depot. -/
inductive Settled (stage : StreamCheckIn δ κ) (record : ProducerRecord κ StreamHandle)
    (source : StreamHandle) (key : Option ByteArray) (world : World δ) :
    ProducerRecord κ StreamHandle → World δ → Prop
  | undeclared (journal : Array JournalLine) (fault : Fault)
      (declared : record.headers.declaredLength = .error fault) :
      Settled stage record source key world record (world.withJournal journal)
  | stays (journal : Array JournalLine) (length : Nat)
      (declared : record.headers.declaredLength = .ok length)
      (small : stage.policy.sizeOf record key length world.clock ≤ stage.policy.threshold) :
      Settled stage record source key world record (world.withJournal journal)
  | failed (journal : Array JournalLine) (length : Nat) (fault : Fault) (after : World δ)
      (declared : record.headers.declaredLength = .ok length)
      (large : stage.policy.threshold < stage.policy.sizeOf record key length world.clock)
      (answer : Action.on (stage.depot.checkInStream record.topic source length) world =
        (.error fault, after)) :
      Settled stage record source key world
        (record.withOutcome (.failed (fault.report (record.attempted .streamed))))
        (after.withJournal journal)
  | kept (length : Nat) (reference : Reference) (after : World δ)
      (declared : record.headers.declaredLength = .ok length)
      (large : stage.policy.threshold < stage.policy.sizeOf record key length world.clock)
      (answer : Action.on (stage.depot.checkInStream record.topic source length) world =
        (.ok reference, after)) :
      Settled stage record source key world (record.withOutcome (.externalized reference)) after

/-- With a stream and a key that is written, the declared length tells how a record passes. -/
theorem settled_of_passes (keys : stage.keySerializer.Computes encodeKey)
    (holds : record.value = some source)
    (keyEq : encodeKey record.topic record.headers record.key = .ok key) {world before : World δ}
    (passes : Passes stage record world next before) :
    Settled stage record source key world next before := by
  have ran : Action.on (stage.keySerializer.serialize record.topic record.headers record.key)
      world = (.ok key, world) := by
    rw [keys, keyEq, Action.on_ofExcept]
  cases passes with
  | undeclared fault journal declared => exact .undeclared journal fault declared
  | valueless absent =>
      rw [holds] at absent
      cases absent
  | refused fault journal after written => cases ran.symm.trans written
  | small length other journal after declared written small =>
      cases ran.symm.trans written
      exact .stays journal length declared small
  | failed other length otherKey fault journal middle after given declared written large answer =>
      cases holds.symm.trans given
      cases ran.symm.trans written
      exact .failed journal length fault after declared large answer
  | kept other length otherKey reference middle after given declared written large answer =>
      cases holds.symm.trans given
      cases ran.symm.trans written
      exact .kept length reference before declared large answer

theorem exists_settled (keys : stage.keySerializer.Computes encodeKey) (sent : Cell δ Nat)
    (holds : record.value = some source)
    (keyEq : encodeKey record.topic record.headers record.key = .ok key) (world : World δ) :
    ∃ next before, Settled stage record source key world next before ∧
      Action.on ((Producer.checkingInStreams stage sent).send record) world =
        Action.on ((Producer.checkingInStreams stage sent).write next) before := by
  have stages : (Producer.checkingInStreams stage sent).interceptors = [stage.interceptor] := rfl
  obtain ⟨next, before, passes, course⟩ := exists_passes stages record world
  exact ⟨next, before, settled_of_passes keys holds keyEq passes, course⟩

theorem Settled.of_small {length : Nat} {world before : World δ}
    (settled : stage.Settled record source key world next before)
    (declared : record.headers.declaredLength = .ok length)
    (small : stage.policy.sizeOf record key length world.clock ≤ stage.policy.threshold) :
    next = record ∧ ∃ journal, before = world.withJournal journal := by
  cases settled with
  | undeclared journal fault undeclared => cases declared.symm.trans undeclared
  | stays journal other otherDeclared otherSmall => exact ⟨rfl, journal, rfl⟩
  | failed journal other fault after otherDeclared large answer =>
      cases declared.symm.trans otherDeclared
      exact absurd small (Nat.not_le.mpr large)
  | kept other reference after otherDeclared large answer =>
      cases declared.symm.trans otherDeclared
      exact absurd small (Nat.not_le.mpr large)

theorem Settled.of_large {length : Nat} {world before : World δ}
    (settled : stage.Settled record source key world next before)
    (declared : record.headers.declaredLength = .ok length)
    (large : stage.policy.threshold < stage.policy.sizeOf record key length world.clock) :
    (∃ fault after journal,
        Action.on (stage.depot.checkInStream record.topic source length) world =
          (.error fault, after) ∧
        next = record.withOutcome (.failed (fault.report (record.attempted .streamed))) ∧
        before = after.withJournal journal) ∨
      ∃ reference,
        Action.on (stage.depot.checkInStream record.topic source length) world =
          (.ok reference, before) ∧
        next = record.withOutcome (.externalized reference) := by
  cases settled with
  | undeclared journal fault undeclared => cases declared.symm.trans undeclared
  | stays journal other otherDeclared small =>
      cases declared.symm.trans otherDeclared
      exact absurd small (Nat.not_le.mpr large)
  | failed journal other fault after otherDeclared otherLarge answer =>
      cases declared.symm.trans otherDeclared
      exact .inl ⟨fault, after, journal, answer, rfl, rfl⟩
  | kept other reference after otherDeclared otherLarge answer =>
      cases declared.symm.trans otherDeclared
      exact .inr ⟨reference, answer, rfl⟩

end StreamCheckIn

end PayloadDepot
