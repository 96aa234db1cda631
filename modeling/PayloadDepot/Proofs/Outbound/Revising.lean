import PayloadDepot.Proofs.Outbound.Producer
import PayloadDepot.Proofs.Storage.Journal

/-!
# Interceptors that compute

An interceptor that does nothing but compute is given by a function from records
to a record or a fault.  Of a chain of them some fail on the record that reaches
them and the others are heeded.  A send through the whole chain ends like one
through the heeded ones alone, none of which fails.
-/

namespace PayloadDepot

variable {δ κ ν : Type}

/-- An interceptor that does nothing about a record but compute another one or a fault. -/
structure Revisor (δ κ ν : Type) where
  interceptor : SendInterceptor δ κ ν
  revise : ProducerRecord κ ν → Except Fault (ProducerRecord κ ν)
  computes : ∀ record, interceptor.onSend record = Action.ofExcept (revise record)

namespace Revisor

/-- The interceptor of a function, which does nothing about what it is told. -/
def ofFunction (revise : ProducerRecord κ ν → Except Fault (ProducerRecord κ ν)) :
    Revisor δ κ ν where
  interceptor := { onSend := fun record => Action.ofExcept (revise record) }
  revise := revise
  computes _ := rfl

/-- Which ones of a chain are heeded, and what they leave of a record.  One that fails is left out,
and the next one is given the record that it was given. -/
inductive Heeded : List (Revisor δ κ ν) → ProducerRecord κ ν → List (Revisor δ κ ν) →
    ProducerRecord κ ν → Prop
  | nil (record : ProducerRecord κ ν) : Heeded [] record [] record
  | revised {revisor : Revisor δ κ ν} {later kept : List (Revisor δ κ ν)}
      {record next last : ProducerRecord κ ν} (revised : revisor.revise record = .ok next)
      (rest : Heeded later next kept last) :
      Heeded (revisor :: later) record (revisor :: kept) last
  | failed {revisor : Revisor δ κ ν} {later kept : List (Revisor δ κ ν)}
      {record last : ProducerRecord κ ν} {fault : Fault}
      (failed : revisor.revise record = .error fault) (rest : Heeded later record kept last) :
      Heeded (revisor :: later) record kept last

namespace Heeded

theorem exists_of_chain (revisors : List (Revisor δ κ ν)) (record : ProducerRecord κ ν) :
    ∃ kept last, Heeded revisors record kept last := by
  induction revisors generalizing record with
  | nil => exact ⟨[], record, .nil record⟩
  | cons revisor later inductionHypothesis =>
      cases outcome : revisor.revise record with
      | ok next =>
          obtain ⟨kept, last, rest⟩ := inductionHypothesis next
          exact ⟨revisor :: kept, last, .revised outcome rest⟩
      | error fault =>
          obtain ⟨kept, last, rest⟩ := inductionHypothesis record
          exact ⟨kept, last, .failed outcome rest⟩

variable {revisors kept : List (Revisor δ κ ν)} {record last : ProducerRecord κ ν}

theorem sublist (heeded : Heeded revisors record kept last) : kept.Sublist revisors := by
  induction heeded with
  | nil record => exact .slnil
  | revised _ _ inductionHypothesis => exact inductionHypothesis.cons_cons _
  | failed _ _ inductionHypothesis => exact inductionHypothesis.cons _

/-- No heeded one fails: each is given what the one before it made. -/
theorem foldlM_eq (heeded : Heeded revisors record kept last) :
    kept.foldlM (fun record revisor => revisor.revise record) record = .ok last := by
  induction heeded with
  | nil record => rfl
  | revised revised _ inductionHypothesis =>
      rw [List.foldlM_cons, revised]
      exact inductionHypothesis
  | failed _ _ inductionHypothesis => exact inductionHypothesis

/-- In a chain of heeded ones all are heeded. -/
theorem self (heeded : Heeded revisors record kept last) : Heeded kept record kept last := by
  induction heeded with
  | nil record => exact .nil record
  | revised revised _ inductionHypothesis => exact .revised revised inductionHypothesis
  | failed _ _ inductionHypothesis => exact inductionHypothesis

/-- A chain leaves of a record what the heeded ones leave, and notes the others. -/
theorem on_intercept (heeded : Heeded revisors record kept last) (world : World δ) :
    ∃ journal, Effect.on (Producer.intercept record (revisors.map Revisor.interceptor)) world =
      (last, world.withJournal journal) := by
  induction heeded generalizing world with
  | nil record => exact ⟨world.journal, rfl⟩
  | @revised revisor later kept record next last revised rest inductionHypothesis =>
      obtain ⟨journal, ran⟩ := inductionHypothesis world
      refine ⟨journal, ?_⟩
      rw [List.map_cons, Producer.intercept, Effect.on_bind, Effect.on_attempt, revisor.computes,
        Action.on_ofExcept, revised]
      exact ran
  | @failed revisor later kept record last fault failed rest inductionHypothesis =>
      rw [List.map_cons, Producer.intercept, Effect.on_bind, Effect.on_attempt, revisor.computes,
        Action.on_ofExcept, failed]
      dsimp only
      rw [Effect.on_bind, World.on_log]
      exact inductionHypothesis _

end Heeded

end Revisor

/-- A serializer that takes no notice of the journal. -/
def Serializer.OverlooksJournal (serializer : Serializer δ ν) : Prop :=
  ∀ topic headers value,
    Action.Agree (serializer.serialize topic headers value)
      (serializer.serialize topic headers value)

theorem Serializer.Computes.overlooksJournal {serializer : Serializer δ ν} {encode : Encoder ν}
    (computes : serializer.Computes encode) : serializer.OverlooksJournal := by
  intro topic headers value
  rw [computes topic headers value]
  exact Action.agree_ofExcept _

namespace Producer

variable {producer : Producer δ κ ν}

theorem agree_write (keys : producer.keySerializer.OverlooksJournal)
    (values : producer.valueSerializer.OverlooksJournal) (record : ProducerRecord κ ν) :
    Action.Agree (producer.write record) (producer.write record) := by
  refine (keys _ _ _).bind fun key => ?_
  refine (values _ _ _).bind fun value => ?_
  refine (Action.agree_updateGet producer.sent _).bind fun offset => ?_
  refine Action.Agree.bind ?_ fun timestamp => Action.agree_pure _
  intro left right alike
  rw [Action.on_lift, Action.on_lift, ProducerRecord.on_timestampOrNow,
    ProducerRecord.on_timestampOrNow, alike.clock]
  exact ⟨rfl, alike⟩

/-- A send ends as writing the record does that the interceptors leave. -/
theorem outcome_send {record next : ProducerRecord κ ν} {world before : World δ}
    (ran : Effect.on (intercept record producer.interceptors) world = (next, before)) :
    (Action.on (producer.send record) world).1 = (Action.on (producer.write next) before).1 := by
  rw [send, Action.on_lift_bind, ran, Action.on_bind]
  rcases Action.on (producer.write next) before with ⟨fault | wire, after⟩ <;> rfl

/-- The producer with interceptors that compute in place of its own. -/
def through (producer : Producer δ κ ν) (revisors : List (Revisor δ κ ν)) : Producer δ κ ν :=
  { producer with interceptors := revisors.map Revisor.interceptor }

@[simp]
theorem write_through (producer : Producer δ κ ν) (revisors : List (Revisor δ κ ν)) :
    (producer.through revisors).write = producer.write := rfl

/-- A send through a chain ends as writing the record does that the heeded ones leave. -/
theorem exists_outcome_send_through (producer : Producer δ κ ν)
    {revisors kept : List (Revisor δ κ ν)} {record last : ProducerRecord κ ν}
    (heeded : Revisor.Heeded revisors record kept last) (world : World δ) :
    ∃ journal, (Action.on ((producer.through revisors).send record) world).1 =
      (Action.on (producer.write last) (world.withJournal journal)).1 := by
  obtain ⟨journal, ran⟩ := heeded.on_intercept world
  refine ⟨journal, ?_⟩
  rw [← write_through producer revisors]
  exact outcome_send ran

/-- A send through a chain ends like one through the heeded ones of the chain. -/
theorem outcome_send_through (keys : producer.keySerializer.OverlooksJournal)
    (values : producer.valueSerializer.OverlooksJournal) {revisors kept : List (Revisor δ κ ν)}
    {record last : ProducerRecord κ ν} (heeded : Revisor.Heeded revisors record kept last)
    (world : World δ) :
    (Action.on ((producer.through revisors).send record) world).1 =
      (Action.on ((producer.through kept).send record) world).1 := by
  obtain ⟨journal, whole⟩ := exists_outcome_send_through producer heeded world
  obtain ⟨other, part⟩ := exists_outcome_send_through producer heeded.self world
  have alike : (world.withJournal journal).Alike (world.withJournal other) := rfl
  rw [whole, part]
  exact (agree_write keys values last _ _ alike).1

end Producer

end PayloadDepot
