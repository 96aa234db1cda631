import Mathlib.Logic.Function.Basic
import Mathlib.Logic.Relation
import PayloadDepot.Proofs.Coding.Standard
import PayloadDepot.Proofs.Outbound.Offsets
import PayloadDepot.Proofs.Outbound.Threshold

/-!
# Traffic of sends

Many callers send through one producer at once.  Each send takes a few steps: an
interceptor revises the record or fails, the key is written and then the value,
the record is counted, which hands out an offset, the time is asked for, and the
interceptors are told.  The steps of all sends may come in any order.  Only one
kind of step touches the count, so every offset is handed out once and none is
left out; and whatever happens in between, a send ends as writing the record can
end that the heeded interceptors leave.
-/

namespace PayloadDepot

variable {δ κ ν : Type}

/-- In some world, a serializer ends with this fault. -/
def Serializer.Refuses (serializer : Serializer δ ν) (topic : String) (headers : Headers)
    (value : Option ν) (fault : Fault) : Prop :=
  ∃ world, (Action.on (serializer.serialize topic headers value) world).1 = .error fault

/-- A record that is not written was refused by the serializer of keys or, after a key was given, by
that of values. -/
theorem ProducerRecord.refused_of_encode {record : ProducerRecord κ ν}
    {keySerializer : Serializer δ κ} {valueSerializer : Serializer δ ν} {world after : World δ}
    {fault : Fault}
    (refused : Action.on (record.encode keySerializer valueSerializer) world =
      (.error fault, after)) :
    keySerializer.Refuses record.topic record.headers record.key fault ∨
      ∃ key, keySerializer.Gives record.topic record.headers record.key key ∧
        valueSerializer.Refuses record.topic record.headers record.value fault := by
  rcases wroteKey : Action.on (keySerializer.serialize record.topic record.headers record.key) world
    with ⟨refusal | key, middle⟩
  · rw [encode, Action.on_bind_of_error wroteKey] at refused
    cases refused
    exact .inl ⟨world, congrArg Prod.fst wroteKey⟩
  · rw [encode, Action.on_bind_of_ok wroteKey] at refused
    rcases wroteValue : Action.on
        (valueSerializer.serialize record.topic record.headers record.value) middle
      with ⟨refusal | value, last⟩
    · rw [Action.on_bind_of_error wroteValue] at refused
      cases refused
      exact .inr ⟨key, .of_on wroteKey, ⟨middle, congrArg Prod.fst wroteValue⟩⟩
    · rw [Action.on_bind_of_ok wroteValue] at refused
      cases refused

namespace Producer

/-- What writing a record can end in, whatever else is sent meanwhile. -/
inductive Writes (producer : Producer δ κ ν) (record : ProducerRecord κ ν) :
    Except Fault WireRecord → Prop
  | stored {key value : Option ByteArray} (offset : Nat) (now : Int)
      (keyGiven : producer.keySerializer.Gives record.topic record.headers record.key key)
      (valueGiven : producer.valueSerializer.Gives record.topic record.headers record.value value) :
      Writes producer record (.ok (record.stored offset now key value))
  | refusedKey {fault : Fault}
      (refused : producer.keySerializer.Refuses record.topic record.headers record.key fault) :
      Writes producer record (.error fault)
  | refusedValue {key : Option ByteArray} {fault : Fault}
      (keyGiven : producer.keySerializer.Gives record.topic record.headers record.key key)
      (refused : producer.valueSerializer.Refuses record.topic record.headers record.value fault) :
      Writes producer record (.error fault)

end Producer

namespace SendTraffic

/-- How far the send of a record has come. -/
inductive Activity (δ κ ν : Type) where
  | idle
  | revising (record current : ProducerRecord κ ν) (later : List (Revisor δ κ ν))
  | writing (record last : ProducerRecord κ ν) (key : Option ByteArray)
  | counting (record last : ProducerRecord κ ν) (key value : Option ByteArray)
  | stamping (record last : ProducerRecord κ ν) (key value : Option ByteArray) (offset : Nat)
  | telling (record : ProducerRecord κ ν) (wire : WireRecord) (later : List (Revisor δ κ ν))
  | ended (record : ProducerRecord κ ν) (outcome : Except Fault WireRecord)

/-- The offset that a send was handed. -/
def Activity.offset? : Activity δ κ ν → Option Int
  | stamping _ _ _ _ offset => some offset
  | telling _ wire _ => some wire.offset
  | ended _ (.ok wire) => some wire.offset
  | idle | revising _ _ _ | writing _ _ _ | counting _ _ _ _ | ended _ (.error _) => none

end SendTraffic

open SendTraffic

/-- The count of a producer with the sends that use it. -/
structure SendTraffic (ι δ κ ν : Type) where
  count : Nat := 0
  calls : ι → Activity δ κ ν := fun _ => .idle

namespace SendTraffic

variable {ι : Type}

def offset? (traffic : SendTraffic ι δ κ ν) (call : ι) : Option Int :=
  (traffic.calls call).offset?

/-- The traffic after one more record was counted. -/
def counted (traffic : SendTraffic ι δ κ ν) : SendTraffic ι δ κ ν :=
  { traffic with count := traffic.count + 1 }

section Steps

variable [DecidableEq ι]

def moved (traffic : SendTraffic ι δ κ ν) (call : ι) (activity : Activity δ κ ν) :
    SendTraffic ι δ κ ν :=
  { traffic with calls := Function.update traffic.calls call activity }

@[simp]
theorem calls_moved_self (traffic : SendTraffic ι δ κ ν) (call : ι) (activity : Activity δ κ ν) :
    (traffic.moved call activity).calls call = activity :=
  Function.update_self ..

@[simp]
theorem moved_moved (traffic : SendTraffic ι δ κ ν) (call : ι) (first second : Activity δ κ ν) :
    (traffic.moved call first).moved call second = traffic.moved call second := by
  simp [moved]

theorem moved_eq_self {traffic : SendTraffic ι δ κ ν} {call : ι} {activity : Activity δ κ ν}
    (stands : traffic.calls call = activity) : traffic.moved call activity = traffic := by
  rw [moved, ← stands, Function.update_eq_self]

theorem counted_moved (traffic : SendTraffic ι δ κ ν) (call : ι) (activity : Activity δ κ ν) :
    (traffic.moved call activity).counted = traffic.counted.moved call activity := rfl

/-- One step of one send.  A serializer may be at work while others send, so what it gives is what
it gives in some world. -/
inductive Step (producer : Producer δ κ ν) (revisors : List (Revisor δ κ ν))
    (traffic : SendTraffic ι δ κ ν) : SendTraffic ι δ κ ν → Prop
  | begin {call : ι} (idle : traffic.calls call = .idle) (record : ProducerRecord κ ν) :
      Step producer revisors traffic (traffic.moved call (.revising record record revisors))
  | revise {call : ι} {record current next : ProducerRecord κ ν} {revisor : Revisor δ κ ν}
      {later : List (Revisor δ κ ν)}
      (revises : traffic.calls call = .revising record current (revisor :: later))
      (revised : revisor.revise current = .ok next) :
      Step producer revisors traffic (traffic.moved call (.revising record next later))
  | discard {call : ι} {record current : ProducerRecord κ ν} {revisor : Revisor δ κ ν}
      {later : List (Revisor δ κ ν)} {fault : Fault}
      (revises : traffic.calls call = .revising record current (revisor :: later))
      (failed : revisor.revise current = .error fault) :
      Step producer revisors traffic (traffic.moved call (.revising record current later))
  | writeKey {call : ι} {record last : ProducerRecord κ ν} {key : Option ByteArray}
      (revised : traffic.calls call = .revising record last [])
      (given : producer.keySerializer.Gives last.topic last.headers last.key key) :
      Step producer revisors traffic (traffic.moved call (.writing record last key))
  | refuseKey {call : ι} {record last : ProducerRecord κ ν} {fault : Fault}
      (revised : traffic.calls call = .revising record last [])
      (refused : producer.keySerializer.Refuses last.topic last.headers last.key fault) :
      Step producer revisors traffic (traffic.moved call (.ended record (.error fault)))
  | writeValue {call : ι} {record last : ProducerRecord κ ν} {key value : Option ByteArray}
      (writes : traffic.calls call = .writing record last key)
      (given : producer.valueSerializer.Gives last.topic last.headers last.value value) :
      Step producer revisors traffic (traffic.moved call (.counting record last key value))
  | refuseValue {call : ι} {record last : ProducerRecord κ ν} {key : Option ByteArray}
      {fault : Fault} (writes : traffic.calls call = .writing record last key)
      (refused : producer.valueSerializer.Refuses last.topic last.headers last.value fault) :
      Step producer revisors traffic (traffic.moved call (.ended record (.error fault)))
  | count {call : ι} {record last : ProducerRecord κ ν} {key value : Option ByteArray}
      (counts : traffic.calls call = .counting record last key value) :
      Step producer revisors traffic
        (traffic.counted.moved call (.stamping record last key value traffic.count))
  | stamp {call : ι} {record last : ProducerRecord κ ν} {key value : Option ByteArray}
      {offset : Nat} (stamps : traffic.calls call = .stamping record last key value offset)
      (now : Int) :
      Step producer revisors traffic
        (traffic.moved call (.telling record (last.stored offset now key value) revisors))
  | tell {call : ι} {record : ProducerRecord κ ν} {wire : WireRecord} {revisor : Revisor δ κ ν}
      {later : List (Revisor δ κ ν)}
      (tells : traffic.calls call = .telling record wire (revisor :: later)) :
      Step producer revisors traffic (traffic.moved call (.telling record wire later))
  | finish {call : ι} {record : ProducerRecord κ ν} {wire : WireRecord}
      (told : traffic.calls call = .telling record wire []) :
      Step producer revisors traffic (traffic.moved call (.ended record (.ok wire)))

/-- Steps one after the other. -/
abbrev Run (producer : Producer δ κ ν) (revisors : List (Revisor δ κ ν)) :
    SendTraffic ι δ κ ν → SendTraffic ι δ κ ν → Prop :=
  Relation.ReflTransGen (Step producer revisors)

end Steps

section Numbered

/-- No two sends were handed one offset, and the offsets that were handed out are those below the
count. -/
structure Numbered (traffic : SendTraffic ι δ κ ν) : Prop where
  distinct : ∀ {call other offset}, traffic.offset? call = some offset →
    traffic.offset? other = some offset → call = other
  initial : ∀ offset, (∃ call, traffic.offset? call = some offset) ↔
    0 ≤ offset ∧ offset < traffic.count

theorem numbered_initial : Numbered ({} : SendTraffic ι δ κ ν) where
  distinct handed := by cases handed
  initial offset := by
    constructor
    · rintro ⟨call, ⟨⟩⟩
    · rintro ⟨least, less⟩
      exact absurd (Int.lt_of_le_of_lt least less) (Int.lt_irrefl 0)

variable [DecidableEq ι] {producer : Producer δ κ ν} {revisors : List (Revisor δ κ ν)}
  {traffic later : SendTraffic ι δ κ ν}

theorem offset?_moved (traffic : SendTraffic ι δ κ ν) (call : ι) (activity : Activity δ κ ν) :
    (traffic.moved call activity).offset? =
      Function.update traffic.offset? call activity.offset? :=
  Function.comp_update Activity.offset? traffic.calls call activity

theorem offset?_moved_of_eq {call : ι} {activity : Activity δ κ ν}
    (same : activity.offset? = traffic.offset? call) :
    (traffic.moved call activity).offset? = traffic.offset? := by
  rw [offset?_moved, same, Function.update_eq_self]

/-- A step hands out no offset, or it hands the count to a send that has none and raises it. -/
theorem Step.count_or (step : traffic.Step producer revisors later) :
    (later.count = traffic.count ∧ later.offset? = traffic.offset?) ∨
      ∃ call, traffic.offset? call = none ∧ later.count = traffic.count + 1 ∧
        later.offset? = Function.update traffic.offset? call (some (traffic.count : Int)) := by
  have unchanged {call : ι} {before after : Activity δ κ ν} (stood : traffic.calls call = before)
      (same : after.offset? = before.offset?) :
      (traffic.moved call after).count = traffic.count ∧
        (traffic.moved call after).offset? = traffic.offset? :=
    ⟨rfl, offset?_moved_of_eq (by rw [offset?, stood, same])⟩
  cases step with
  | begin idle record => exact .inl (unchanged idle rfl)
  | revise revises revised => exact .inl (unchanged revises rfl)
  | discard revises failed => exact .inl (unchanged revises rfl)
  | writeKey revised given => exact .inl (unchanged revised rfl)
  | refuseKey revised refused => exact .inl (unchanged revised rfl)
  | writeValue writes given => exact .inl (unchanged writes rfl)
  | refuseValue writes refused => exact .inl (unchanged writes rfl)
  | @count call record last key value counts =>
      exact .inr ⟨call, by rw [offset?, counts]; rfl, rfl, offset?_moved ..⟩
  | stamp stamps now => exact .inl (unchanged stamps rfl)
  | tell tells => exact .inl (unchanged tells rfl)
  | finish told => exact .inl (unchanged told rfl)

theorem Numbered.step (numbered : traffic.Numbered) (step : traffic.Step producer revisors later) :
    later.Numbered := by
  obtain ⟨count, same⟩ | ⟨call, without, count, handed⟩ := step.count_or
  · constructor
    · rw [same]
      exact numbered.distinct
    · rw [same, count]
      exact numbered.initial
  · -- Every offset that was handed out before is below the one that is handed out now.
    have below {other : ι} {offset : Int} (has : traffic.offset? other = some offset) :
        0 ≤ offset ∧ offset < traffic.count := (numbered.initial offset).mp ⟨other, has⟩
    constructor
    · intro first second offset hasFirst hasSecond
      rw [handed, Function.update_apply] at hasFirst hasSecond
      split at hasFirst <;> split at hasSecond
      · next isFirst isSecond => exact isFirst.trans isSecond.symm
      · have := below hasSecond
        cases hasFirst
        omega
      · have := below hasFirst
        cases hasSecond
        omega
      · exact numbered.distinct hasFirst hasSecond
    · intro offset
      rw [handed, count]
      constructor
      · rintro ⟨other, has⟩
        rw [Function.update_apply] at has
        split at has
        · cases has
          omega
        · have := below has
          omega
      · intro bounds
        by_cases isCount : offset = traffic.count
        · exact ⟨call, by rw [isCount, Function.update_self]⟩
        · obtain ⟨other, has⟩ := (numbered.initial offset).mpr ⟨bounds.1, by omega⟩
          refine ⟨other, ?_⟩
          rw [Function.update_of_ne, has]
          rintro rfl
          rw [without] at has
          cases has

end Numbered

section Faithful

variable [DecidableEq ι] {producer : Producer δ κ ν} {revisors : List (Revisor δ κ ν)}
  {traffic later : SendTraffic ι δ κ ν}

/-- A send ends as writing what the heeded interceptors leave of its record can end. -/
def Ends (producer : Producer δ κ ν) (revisors : List (Revisor δ κ ν))
    (record : ProducerRecord κ ν) (outcome : Except Fault WireRecord) : Prop :=
  ∃ kept last, Revisor.Heeded revisors record kept last ∧ producer.Writes last outcome

/-- What a send has in hand comes from its record by the interceptors that are heeded. -/
def Holds (producer : Producer δ κ ν) (revisors : List (Revisor δ κ ν)) : Activity δ κ ν → Prop
  | .idle => True
  | .revising record current later => ∀ {kept last}, Revisor.Heeded later current kept last →
      ∃ kept, Revisor.Heeded revisors record kept last
  | .writing record last key =>
      (∃ kept, Revisor.Heeded revisors record kept last) ∧
        producer.keySerializer.Gives last.topic last.headers last.key key
  | .counting record last key value | .stamping record last key value _ =>
      (∃ kept, Revisor.Heeded revisors record kept last) ∧
        producer.keySerializer.Gives last.topic last.headers last.key key ∧
        producer.valueSerializer.Gives last.topic last.headers last.value value
  | .telling record wire _ => Ends producer revisors record (.ok wire)
  | .ended record outcome => Ends producer revisors record outcome

theorem holds_step (holds : ∀ call, Holds producer revisors (traffic.calls call))
    (step : traffic.Step producer revisors later) :
    ∀ call, Holds producer revisors (later.calls call) := by
  have moves {call : ι} {before after : Activity δ κ ν} (stood : traffic.calls call = before)
      (holdsAfter : Holds producer revisors before → Holds producer revisors after) :
      ∀ other, Holds producer revisors (Function.update traffic.calls call after other) := by
    intro other
    by_cases same : other = call
    · rw [same, Function.update_self]
      exact holdsAfter (stood ▸ holds call)
    · rw [Function.update_of_ne same]
      exact holds other
  cases step with
  | begin idle record => exact moves idle fun _ {kept last} heeded => ⟨kept, heeded⟩
  | revise revises revised =>
      exact moves revises fun held _ _ heeded => held (.revised revised heeded)
  | discard revises failed =>
      exact moves revises fun held _ _ heeded => held (.failed failed heeded)
  | @writeKey call record last key revised given =>
      exact moves revised fun held => ⟨held (.nil last), given⟩
  | @refuseKey call record last fault revised refused =>
      refine moves revised fun held => ?_
      obtain ⟨kept, heeded⟩ := held (.nil last)
      exact ⟨kept, last, heeded, .refusedKey refused⟩
  | writeValue writes given => exact moves writes fun ⟨heeded, key⟩ => ⟨heeded, key, given⟩
  | refuseValue writes refused =>
      exact moves writes fun ⟨⟨kept, heeded⟩, key⟩ =>
        ⟨kept, _, heeded, .refusedValue key refused⟩
  | count counts => exact moves counts id
  | @stamp call record last key value offset stamps now =>
      exact moves stamps fun ⟨⟨kept, heeded⟩, keyGiven, valueGiven⟩ =>
        ⟨kept, last, heeded, .stored offset now keyGiven valueGiven⟩
  | tell tells => exact moves tells id
  | finish told => exact moves told id

end Faithful

section Runs

variable [DecidableEq ι] {producer : Producer δ κ ν} {revisors : List (Revisor δ κ ν)}
  {traffic : SendTraffic ι δ κ ν}

/-- After any steps offsets are numbered, and what every send has in hand is right. -/
theorem Run.numbered (run : Run producer revisors {} traffic) :
    traffic.Numbered ∧ ∀ call, Holds producer revisors (traffic.calls call) := by
  induction run with
  | refl => exact ⟨numbered_initial, fun _ => trivial⟩
  | tail _ step inductionHypothesis =>
      exact ⟨inductionHypothesis.1.step step, holds_step inductionHypothesis.2 step⟩

end Runs

section Alone

variable [DecidableEq ι] {producer : Producer δ κ ν} {revisors : List (Revisor δ κ ν)}

variable {traffic : SendTraffic ι δ κ ν} {call : ι} {record current last : ProducerRecord κ ν}
  {later kept : List (Revisor δ κ ν)} {key value : Option ByteArray} {fault : Fault}
  {world after : World δ} {wire : WireRecord}

theorem run_revising (heeded : Revisor.Heeded later current kept last)
    (revises : traffic.calls call = .revising record current later) :
    Run producer revisors traffic (traffic.moved call (.revising record last [])) := by
  induction heeded generalizing traffic with
  | nil current => rw [moved_eq_self revises]
  | revised revised rest inductionHypothesis =>
      have run := inductionHypothesis (calls_moved_self traffic call _)
      rw [moved_moved] at run
      exact .head (.revise revises revised) run
  | failed failed rest inductionHypothesis =>
      have run := inductionHypothesis (calls_moved_self traffic call _)
      rw [moved_moved] at run
      exact .head (.discard revises failed) run

theorem run_telling (tells : traffic.calls call = .telling record wire later) :
    Run producer revisors traffic (traffic.moved call (.ended record (.ok wire))) := by
  induction later generalizing traffic with
  | nil => exact .single (.finish tells)
  | cons revisor later inductionHypothesis =>
      have run := inductionHypothesis (calls_moved_self traffic call _)
      rw [moved_moved] at run
      exact .head (.tell tells) run

theorem run_begin (idle : traffic.calls call = .idle)
    (heeded : Revisor.Heeded revisors record kept last) :
    Run producer revisors traffic (traffic.moved call (.revising record last [])) := by
  have run : Run producer revisors _ _ := run_revising heeded
    (calls_moved_self traffic call (.revising record record revisors))
  rw [moved_moved] at run
  exact .head (.begin idle record) run

theorem run_refused (revised : traffic.calls call = .revising record last [])
    (refused : Action.on (last.encode producer.keySerializer producer.valueSerializer) world =
      (.error fault, after)) :
    Run producer revisors traffic (traffic.moved call (.ended record (.error fault))) := by
  rcases ProducerRecord.refused_of_encode refused with refusedKey | ⟨key, given, refusedValue⟩
  · exact .single (.refuseKey revised refusedKey)
  · have refuse : Step producer revisors _ _ :=
      .refuseValue (calls_moved_self traffic call (.writing record last key)) refusedValue
    rw [moved_moved] at refuse
    exact .head (.writeKey revised given) (.single refuse)

theorem run_written (revised : traffic.calls call = .revising record last [])
    (written : Action.on (last.encode producer.keySerializer producer.valueSerializer) world =
      (.ok (key, value), after)) (now : Int) :
    Run producer revisors traffic (traffic.counted.moved call
      (.ended record (.ok (last.stored traffic.count now key value)))) := by
  obtain ⟨middle, wroteKey, wroteValue⟩ := ProducerRecord.exists_of_encode_ok written
  have writeValue : Step producer revisors _ _ :=
    .writeValue (calls_moved_self traffic call (.writing record last key)) (.of_on wroteValue)
  have count : Step producer revisors _ _ :=
    .count (calls_moved_self traffic call (.counting record last key value))
  have stamp : Step producer revisors _ _ :=
    .stamp (calls_moved_self traffic.counted call
      (.stamping record last key value traffic.count)) now
  have told : Run producer revisors _ _ := run_telling (calls_moved_self traffic.counted call
      (.telling record (last.stored traffic.count now key value) revisors))
  rw [moved_moved] at writeValue stamp told
  rw [counted_moved, moved_moved] at count
  exact .head (.writeKey revised (.of_on wroteKey))
    (.head writeValue (.head count (.head stamp told)))

/-- A send that no other one interrupts is a run of its steps. -/
theorem run_send (plain : producer.Plain revisors) (idle : traffic.calls call = .idle)
    (counts : producer.count world = traffic.count) (record : ProducerRecord κ ν) :
    Run producer revisors traffic
      (SendTraffic.moved
        { traffic with count := producer.count (Action.on (producer.send record) world).2 } call
        (.ended record (Action.on (producer.send record) world).1)) := by
  obtain ⟨kept, last, heeded⟩ := Revisor.Heeded.exists_of_chain revisors record
  obtain ⟨journal, ran⟩ := heeded.on_intercept world
  rw [← plain.intercepts] at ran
  have sent := plain.counts_send record world
  have outcome := Producer.outcome_send ran
  refine .trans (run_begin idle heeded) ?_
  have revised := calls_moved_self traffic call (.revising record last [])
  rcases encoded : Action.on (last.encode producer.keySerializer producer.valueSerializer)
    (world.withJournal journal) with ⟨fault | ⟨key, value⟩, after⟩
  · rw [Producer.on_write_of_refused encoded] at outcome
    rw [outcome] at sent ⊢
    rw [show producer.count _ = producer.count world from sent, counts]
    have run : Run producer revisors _ _ := run_refused revised encoded
    rwa [moved_moved] at run
  · rw [Producer.on_write_of_encoded encoded] at outcome
    have same : producer.sent.read after.state = traffic.count := by
      have left := plain.count_encode last (world.withJournal journal)
      rw [encoded] at left
      exact left.trans counts
    rw [outcome, same] at sent ⊢
    rw [sent.2, counts]
    have run : Run producer revisors _ _ := run_written revised encoded after.clock
    rw [counted_moved, moved_moved] at run
    exact run

end Alone

end SendTraffic

namespace Producer

/-- For a producer whose interceptors are given by functions: of sends one after the other, those
that succeed are given the offsets from the count on and those that fail none.  Of sends whose steps
come in any order no two are given one offset, those that are given are all numbers below the count,
and each send ends as writing can end what the heeded interceptors leave of its record; the steps of
one send together are the send.  A send ends like one through the heeded interceptors alone, none of
which fails. -/
theorem sends_numbered {producer : Producer δ κ ν} {revisors : List (Revisor δ κ ν)}
    (plain : producer.Plain revisors) :
    (∀ {start world : World δ} {outcomes : List (Except Fault WireRecord)},
      producer.Sends start outcomes world →
        producer.count world = producer.count start + (stored outcomes).length ∧
        (stored outcomes).map WireRecord.offset =
          (List.range' (producer.count start) (stored outcomes).length).map Nat.cast) ∧
    (∀ {ι : Type} [DecidableEq ι] {traffic : SendTraffic ι δ κ ν},
      (Run producer revisors {} traffic → traffic.Numbered ∧
        ∀ call record outcome, traffic.calls call = .ended record outcome →
          Ends producer revisors record outcome) ∧
      ∀ {call : ι} {world : World δ}, traffic.calls call = .idle →
        producer.count world = traffic.count → ∀ record,
          Run producer revisors traffic (SendTraffic.moved
            { traffic with count := producer.count (Action.on (producer.send record) world).2 }
            call (.ended record (Action.on (producer.send record) world).1))) ∧
    ∀ record, ∃ kept last, Revisor.Heeded revisors record kept last ∧ kept.Sublist revisors ∧
      kept.foldlM (fun record revisor => revisor.revise record) record = .ok last ∧
      ∀ world, (Action.on (producer.send record) world).1 =
        (Action.on ((producer.through kept).send record) world).1 := by
  refine ⟨fun sends => sends.numbered plain, ⟨fun run => ?_, ?_⟩, fun record => ?_⟩
  · obtain ⟨numbered, holds⟩ := run.numbered
    refine ⟨numbered, fun call record outcome ended => ?_⟩
    have held := holds call
    rw [ended] at held
    exact held
  · exact fun idle counts record => run_send plain idle counts record
  · obtain ⟨kept, last, heeded⟩ := Revisor.Heeded.exists_of_chain revisors record
    exact ⟨kept, last, heeded, heeded.sublist, heeded.foldlM_eq, plain.outcome_send heeded⟩

/-- Two interceptors, of which the first one fails and the second one marks every record. -/
def halfHeeded : List (Revisor Nat String String) :=
  [.ofFunction fun _ => .error (.externalization "refused"),
    .ofFunction fun record => .ok (record.addHeader "seen" .empty)]

/-- The bytes of a text that is not empty. -/
def filledText (text : String) : Except Fault ByteArray :=
  if text = "" then .error (.externalization "empty") else .ok text.toUTF8

/-- A producer through these that writes no empty text. -/
def choosy : Producer Nat String String where
  keySerializer := .text
  valueSerializer := .ofFunction "choosy" filledText
  interceptors := halfHeeded.map Revisor.interceptor
  sent := .whole

theorem plain_choosy : choosy.Plain halfHeeded := by
  refine .of_computes rfl Cell.lawful_whole Text.computes_encoder
    (Serializer.computes_ofFunction _ _) ?_
  intro interceptor member topic fault
  obtain ⟨revisor, among, rfl⟩ := List.mem_map.mp member
  rcases List.mem_pair.mp among with rfl | rfl <;> rfl

/-- An order with a text. -/
def order (text : String) : ProducerRecord String String :=
  { topic := "orders", value := some text }

/-- Of three sends in turn the second one fails, and the others are given the offsets 0 and 1.  Of
two sends together the one that begins later overtakes the other. -/
theorem sends_numbered_of_choosy :
    choosy.Plain halfHeeded ∧
    (∃ outcomes world, choosy.Sends (World.initial 0 .empty 0) outcomes world ∧
      outcomes.length = 3 ∧ (stored outcomes).map WireRecord.offset = [0, 1]) ∧
    (∃ traffic : SendTraffic Bool Nat String String, Run choosy halfHeeded {} traffic ∧
      traffic.Numbered ∧ traffic.offset? true = some 0 ∧ traffic.offset? false = some 1) ∧
    ∃ kept last, Revisor.Heeded halfHeeded (order "a") kept last ∧ kept.length = 1 ∧
      (Action.on (choosy.send (order "a")) (World.initial 0 .empty 0)).1 =
        (Action.on ((choosy.through kept).send (order "a")) (World.initial 0 .empty 0)).1 := by
  obtain ⟨inTurn, together, heeds⟩ := sends_numbered plain_choosy
  refine ⟨plain_choosy, ?_, ?_, ?_⟩
  · have none : choosy.Sends (World.initial 0 .empty 0) [] (World.initial 0 .empty 0) := .nil
    have sends := ((none.send (order "a")).send (order "")).send (order "b")
    obtain ⟨-, numbered⟩ := inTurn sends
    refine ⟨_, _, sends, rfl, ?_⟩
    rw [numbered]
    decide +kernel
  · let marked := (order "a").addHeader "seen" .empty
    let start : World Nat := World.initial 0 .empty 0
    let begun : SendTraffic Bool Nat String String :=
      SendTraffic.moved {} false (.revising (order "a") marked [])
    have heeded : Revisor.Heeded halfHeeded (order "a") _ marked :=
      .failed rfl (.revised rfl (.nil _))
    have first : Run choosy halfHeeded {} begun := run_begin rfl heeded
    have idle : begun.calls true = .idle := rfl
    have counts : choosy.count start = begun.count := rfl
    have second := first.trans (run_send plain_choosy idle counts (order "b"))
    have written := marked.on_encode Text.computes_encoder
      (Serializer.computes_ofFunction "choosy" filledText) start
    -- The send that began first still has its record in hand.
    have revised : (SendTraffic.moved { begun with count := 1 } true
        (.ended (order "b") (Action.on (choosy.send (order "b")) start).1)).calls false =
          .revising (order "a") marked [] := rfl
    have third := second.trans (run_written revised written 0)
    exact ⟨_, third, (together.1 third).1, by decide +kernel, by decide +kernel⟩
  · obtain ⟨kept, last, heeded, -, -, same⟩ := heeds (order "a")
    refine ⟨kept, last, heeded, ?_, same _⟩
    cases heeded with
    | revised revised rest => cases revised
    | failed failed rest =>
        cases rest with
        | revised revised rest =>
            cases rest
            rfl
        | failed failed rest => cases failed

end Producer

end PayloadDepot
