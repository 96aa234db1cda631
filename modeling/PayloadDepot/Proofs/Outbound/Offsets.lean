import Mathlib.Data.List.Range
import PayloadDepot.Proofs.Outbound.Revising
import PayloadDepot.Proofs.Storage.Frame

/-!
# Offsets

A producer counts a record when both serializers have written it and nothing
can fail any more.  If nothing but its sends changes the count, sends one after
the other are given the numbers from the count on, those that fail none.
-/

namespace PayloadDepot

variable {δ κ ν : Type}

theorem Serializer.Computes.leaves {serializer : Serializer δ ν} {encode : Encoder ν} {ρ : Type}
    (computes : serializer.Computes encode) (observe : World δ → ρ) (topic : String)
    (headers : Headers) (value : Option ν) :
    Action.Leaves observe (serializer.serialize topic headers value) := by
  rw [computes topic headers value]
  exact .ofExcept _

namespace Producer

/-- How many records were sent so far. -/
def count (producer : Producer δ κ ν) (world : World δ) : Nat :=
  producer.sent.read world.state

/-- What becomes of a count over an attempt to store a record: one that is stored is given the count
as its offset and is counted, and a failure leaves the count as it is. -/
def Counts (before after : Nat) : Except Fault WireRecord → Prop
  | .ok wire => wire.offset = before ∧ after = before + 1
  | .error _ => after = before

/-- A producer whose interceptors compute and whose stages know neither its count nor the
journal. -/
structure Plain (producer : Producer δ κ ν) (revisors : List (Revisor δ κ ν)) : Prop where
  intercepts : producer.interceptors = revisors.map Revisor.interceptor
  lawful : producer.sent.Lawful
  keys : ∀ topic headers key,
    Action.Leaves producer.count (producer.keySerializer.serialize topic headers key)
  values : ∀ topic headers value,
    Action.Leaves producer.count (producer.valueSerializer.serialize topic headers value)
  acknowledges : ∀ interceptor ∈ producer.interceptors, ∀ topic fault,
    Effect.Leaves producer.count (interceptor.onAcknowledge topic fault)
  keysOverlook : producer.keySerializer.OverlooksJournal
  valuesOverlook : producer.valueSerializer.OverlooksJournal

variable {producer : Producer δ κ ν} {revisors : List (Revisor δ κ ν)} {world : World δ}

namespace Plain

theorem of_computes {encodeKey : Encoder κ} {encodeValue : Encoder ν}
    (intercepts : producer.interceptors = revisors.map Revisor.interceptor)
    (lawful : producer.sent.Lawful) (keys : producer.keySerializer.Computes encodeKey)
    (values : producer.valueSerializer.Computes encodeValue)
    (silent : Silent producer.interceptors) : producer.Plain revisors where
  intercepts := intercepts
  lawful := lawful
  keys := keys.leaves _
  values := values.leaves _
  acknowledges interceptor member topic fault world := by
    rw [silent interceptor member topic fault, Effect.on_pure]
  keysOverlook := keys.overlooksJournal
  valuesOverlook := values.overlooksJournal

/-- A send ends like one through the heeded interceptors alone. -/
theorem outcome_send (plain : producer.Plain revisors) {kept : List (Revisor δ κ ν)}
    {record last : ProducerRecord κ ν} (heeded : Revisor.Heeded revisors record kept last)
    (world : World δ) : (Action.on (producer.send record) world).1 =
      (Action.on ((producer.through kept).send record) world).1 := by
  have itself : producer.through revisors = producer := by
    rw [through, ← plain.intercepts]
  have outcome := outcome_send_through plain.keysOverlook plain.valuesOverlook heeded world
  rwa [itself] at outcome

variable (plain : producer.Plain revisors)

include plain

theorem count_encode (record : ProducerRecord κ ν) :
    Action.Leaves producer.count
      (record.encode producer.keySerializer producer.valueSerializer) :=
  (plain.keys _ _ _).bind fun _ => (plain.values _ _ _).bind fun _ => .pure _

theorem count_acknowledge (topic : String) (fault : Option Fault) :
    Effect.Leaves producer.count (producer.acknowledge topic fault) := by
  have each := plain.acknowledges
  rw [acknowledge]
  generalize producer.interceptors = interceptors at each
  induction interceptors with
  | nil => exact fun world => rfl
  | cons interceptor later inductionHypothesis =>
      intro world
      have rest := inductionHypothesis fun other member =>
        each other (List.mem_cons_of_mem _ member)
      have first := each interceptor List.mem_cons_self topic fault world
      exact (rest _).trans first

theorem count_intercept (record : ProducerRecord κ ν) (world : World δ) :
    producer.count (Effect.on (intercept record producer.interceptors) world).2 =
      producer.count world := by
  obtain ⟨kept, last, heeded⟩ := Revisor.Heeded.exists_of_chain revisors record
  obtain ⟨journal, ran⟩ := heeded.on_intercept world
  rw [plain.intercepts, ran]
  rfl

theorem counts_write (record : ProducerRecord κ ν) (world : World δ) :
    Counts (producer.count world) (producer.count (Action.on (producer.write record) world).2)
      (Action.on (producer.write record) world).1 := by
  have left := plain.count_encode record world
  rcases encoded : Action.on (record.encode producer.keySerializer producer.valueSerializer) world
    with ⟨fault | ⟨key, value⟩, after⟩
  · rw [encoded] at left
    rw [on_write_of_refused encoded]
    exact left
  · rw [encoded] at left
    rw [on_write_of_encoded encoded, ← left]
    exact ⟨rfl, plain.lawful _ _⟩

theorem counts_send (record : ProducerRecord κ ν) (world : World δ) :
    Counts (producer.count world) (producer.count (Action.on (producer.send record) world).2)
      (Action.on (producer.send record) world).1 := by
  have left := plain.count_intercept record world
  rcases ran : Effect.on (intercept record producer.interceptors) world with ⟨next, before⟩
  rw [ran] at left
  have wrote := plain.counts_write next before
  rw [left] at wrote
  rw [send, Action.on_lift_bind, ran]
  rcases written : Action.on (producer.write next) before with ⟨fault | wire, after⟩
  · rw [written] at wrote
    rw [Action.on_bind_of_error written]
    exact wrote
  · rw [written] at wrote
    rw [Action.on_bind_of_ok written, Action.on_lift_bind, Action.on_pure,
      plain.count_acknowledge]
    exact wrote

end Plain

/-- How sends one after the other ended, with anything in between that leaves the count alone. -/
inductive Sends (producer : Producer δ κ ν) (start : World δ) :
    List (Except Fault WireRecord) → World δ → Prop
  | nil : Sends producer start [] start
  | send {outcomes : List (Except Fault WireRecord)} {world : World δ}
      (sends : Sends producer start outcomes world) (record : ProducerRecord κ ν) :
      Sends producer start (outcomes ++ [(Action.on (producer.send record) world).1])
        (Action.on (producer.send record) world).2
  | elsewhere {outcomes : List (Except Fault WireRecord)} {world after : World δ}
      (sends : Sends producer start outcomes world)
      (same : producer.count after = producer.count world) : Sends producer start outcomes after

/-- The records that were stored, in the order of their sends. -/
def stored (outcomes : List (Except Fault WireRecord)) : List WireRecord :=
  outcomes.filterMap Except.toOption

/-- The offsets of the records that are stored are the numbers from the count on, one after the
other. -/
theorem Sends.numbered (plain : producer.Plain revisors) {start : World δ}
    {outcomes : List (Except Fault WireRecord)} (sends : producer.Sends start outcomes world) :
    producer.count world = producer.count start + (stored outcomes).length ∧
      (stored outcomes).map WireRecord.offset =
        (List.range' (producer.count start) (stored outcomes).length).map Nat.cast := by
  induction sends with
  | nil => exact ⟨rfl, rfl⟩
  | @send outcomes world sends record inductionHypothesis =>
      obtain ⟨counted, numbered⟩ := inductionHypothesis
      have sent := plain.counts_send record world
      rcases ran : Action.on (producer.send record) world with ⟨fault | wire, after⟩ <;>
        rw [ran] at sent
      · have unchanged : stored (outcomes ++ [.error fault]) = stored outcomes := by
          simp [stored, Except.toOption]
        have same : producer.count after = producer.count world := sent
        rw [unchanged]
        exact ⟨same.trans counted, numbered⟩
      · have further : stored (outcomes ++ [.ok wire]) = stored outcomes ++ [wire] := by
          simp [stored, Except.toOption]
        obtain ⟨offset, counts⟩ : wire.offset = producer.count world ∧
          producer.count after = producer.count world + 1 := sent
        rw [further, List.length_append, List.map_append, numbered, List.length_singleton,
          List.range'_concat, List.map_append, Nat.one_mul, ← counted]
        refine ⟨by rw [counts, counted, Nat.add_assoc], ?_⟩
        rw [List.map_singleton, List.map_singleton, offset]
  | elsewhere sends same inductionHypothesis =>
      exact ⟨same.trans inductionHypothesis.1, inductionHypothesis.2⟩

end Producer

end PayloadDepot
