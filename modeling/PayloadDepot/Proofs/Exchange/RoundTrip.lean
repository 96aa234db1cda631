import PayloadDepot.Proofs.Exchange.Course
import PayloadDepot.Proofs.Host.BlobName

/-!
# Round trips over whole runs

A run of an exchange sends records, polls batches, closes the depot and lets
time pass, in any order.  Every record that was sent during a run is received
with its key and its value at the end of the run, as often and in whatever batch
it is polled.  The invariant is that the depot stays intact: later check-ins,
polls and closes leave every reference that was given out where it leads.
-/

namespace PayloadDepot

variable {δ κ ν : Type}

namespace Exchange

/-- What may happen during a run. -/
inductive Event (κ ν : Type) where
  | send (record : ProducerRecord κ ν)
  | poll (fetched : List WireRecord)
  | close
  | wait (clock : Int)

/-- A record that was sent, and the one that was stored for it. -/
abbrev Sending (κ ν : Type) := ProducerRecord κ ν × WireRecord

/-- Lets an event happen and gives the record that it sent, if it sent one. -/
def act (exchange : Exchange δ κ ν) : Event κ ν → Effect δ (List (Sending κ ν))
  | .send record => do
      match ← Action.attempt (exchange.producer.send record) with
      | .ok wire => return [(record, wire)]
      | .error _ => return []
  | .poll fetched => do
      let _ ← Action.attempt (exchange.consumer.poll fetched)
      return []
  | .close => do
      MemoryDepot.close exchange.place
      return []
  | .wait clock => do
      modify fun world => { world with clock := clock }
      return []

/-- Lets events happen one after the other and gives all records that they sent. -/
def run (exchange : Exchange δ κ ν) : List (Event κ ν) → Effect δ (List (Sending κ ν))
  | [] => pure []
  | event :: later => do
      let first ← exchange.act event
      let rest ← exchange.run later
      return first ++ rest

/-- The topic of a record can stand in references, and its headers hold no outcome. -/
structure Plain (record : ProducerRecord κ ν) : Prop where
  topic : Text.IsComponent record.topic
  noClaim : record.headers.holdsClaim = false
  noFailure : record.headers.holdsFailure = false

def Event.Plain : Event κ ν → Prop
  | .send record => Exchange.Plain record
  | _ => True

/-- A stored record is received with the key and the value that were sent. -/
def Returns (exchange : Exchange δ κ ν) (depot : MemoryDepot) (sending : Sending κ ν) : Prop :=
  exchange.polled depot sending.2 =
    .ok (sending.2.received sending.1.key sending.1.value)

variable {exchange : Exchange δ κ ν} {world after : World δ}

open MemoryDepot

theorem restored_of_keeps {depot later : MemoryDepot} (keeps : later.Keeps depot)
    {decode : Decoder ν} {topic : String} {headers : Headers} {bytes : Option ByteArray}
    {value : Option ν} (restored : decode.restored depot topic headers bytes = .ok value) :
    decode.restored later topic headers bytes = .ok value := by
  cases told : Outcome.ofHeaders headers with
  | error fault =>
      rw [Decoder.restored, told] at restored
      cases restored
  | ok outcome =>
      cases outcome with
      | passthrough =>
          rw [Decoder.restored_of_passthrough told] at restored ⊢
          exact restored
      | failed description =>
          rw [Decoder.restored, told] at restored
          cases restored
      | externalized reference =>
          rw [Decoder.restored_eq_ok_iff_of_externalized told] at restored ⊢
          obtain ⟨payload, found, decoded⟩ := restored
          exact ⟨payload, keeps _ _ found, decoded⟩

theorem Returns.later {depot later : MemoryDepot} (keeps : later.Keeps depot)
    {sending : Sending κ ν} (returns : exchange.Returns depot sending) :
    exchange.Returns later sending := by
  obtain ⟨key, value⟩ := WireRecord.decoded_eq_ok_iff.mp returns
  exact WireRecord.decoded_eq_ok_iff.mpr ⟨key, restored_of_keeps keeps value⟩

/-- A record that was sent returns: in itself if its value stayed, or from the payload that was
checked in for it. -/
theorem returns_send (intact : Intact exchange.place world)
    {record : ProducerRecord κ ν} (plain : Plain record) {wire : WireRecord}
    (sent : Action.on (exchange.producer.send record) world = (.ok wire, after))
    (proper : ProperNames after) : exchange.Returns (exchange.held after) (record, wire) := by
  have stays : Outcome.ofHeaders record.headers = .ok .passthrough :=
    (Outcome.ofHeaders_eq_passthrough_iff _).mpr ⟨plain.noClaim, plain.noFailure⟩
  obtain ⟨topic, keyEq, kind⟩ := of_send_ok sent
  refine WireRecord.decoded_eq_ok_iff.mpr ⟨?_, ?_⟩
  · rw [topic]
    exact exchange.keyCodec.undoes.undo keyEq
  · rw [topic]
    cases kind with
    | stays headers value held =>
        rw [Encoder.sealed, stays] at value
        rw [headers, Decoder.restored_of_passthrough stays]
        exact exchange.valueCodec.undoes.undo value
    | kept payload reference middle headers encoded value answer goesOn held =>
        have leads : (exchange.held after).find reference = .ok payload := by
          rw [held]
          exact find_of_checkIn exchange.lawful intact plain.topic answer (proper.earlier goesOn)
        have referred :=
          Outcome.ofHeaders_apply_externalized plain.noClaim plain.noFailure reference
        rw [headers, Decoder.restored_eq_ok_iff_of_externalized referred]
        exact ⟨payload, leads, exchange.valueCodec.undoes.undo_add reference encoded⟩

section Runs

theorem on_act_send (exchange : Exchange δ κ ν) (record : ProducerRecord κ ν) (world : World δ) :
    Effect.on (exchange.act (.send record)) world =
      match Action.on (exchange.producer.send record) world with
      | (.ok wire, after) => ([(record, wire)], after)
      | (.error _, after) => ([], after) := by
  rw [act, Effect.on_bind, Effect.on_attempt]
  rcases Action.on (exchange.producer.send record) world with ⟨_ | _, _⟩ <;> rfl

theorem on_run_cons (exchange : Exchange δ κ ν) (event : Event κ ν) (later : List (Event κ ν))
    (world : World δ) :
    let middle := Effect.on (exchange.act event) world
    let last := Effect.on (exchange.run later) middle.2
    Effect.on (exchange.run (event :: later)) world = (middle.1 ++ last.1, last.2) :=
  rfl

theorem leads_act (exchange : Exchange δ κ ν) (event : Event κ ν) (world : World δ) :
    Leads exchange.place world (Effect.on (exchange.act event) world).2 := by
  cases event with
  | send record =>
      have leads := leads_send exchange record world
      rw [on_act_send]
      rcases ran : Action.on (exchange.producer.send record) world with ⟨_ | _, _⟩ <;>
        simpa [ran] using leads
  | poll fetched => exact leads_poll exchange fetched world
  | close => exact .single .close
  | wait clock => exact .single (.elsewhere rfl ⟨rfl, Nat.le_refl _⟩)

theorem leads_run (exchange : Exchange δ κ ν) (events : List (Event κ ν)) (world : World δ) :
    Leads exchange.place world (Effect.on (exchange.run events) world).2 := by
  induction events generalizing world with
  | nil => exact .refl
  | cons event later inductionHypothesis =>
      rw [on_run_cons]
      exact (leads_act exchange event world).trans (inductionHypothesis _)

theorem returns_act (intact : Intact exchange.place world) {event : Event κ ν}
    (plain : event.Plain) (proper : ProperNames (Effect.on (exchange.act event) world).2) :
    ∀ sending ∈ (Effect.on (exchange.act event) world).1,
      exchange.Returns (exchange.held (Effect.on (exchange.act event) world).2) sending := by
  intro sending member
  cases event with
  | send record =>
      rw [on_act_send] at proper member ⊢
      rcases ran : Action.on (exchange.producer.send record) world with ⟨fault | wire, after⟩
      · rw [ran] at member
        cases member
      · rw [ran] at proper member
        rw [List.mem_singleton.mp member]
        exact returns_send intact plain ran proper
  | poll fetched => cases member
  | close => cases member
  | wait clock => cases member

theorem returns_run {events : List (Event κ ν)} (intact : Intact exchange.place world)
    (plain : ∀ event ∈ events, event.Plain)
    (proper : ProperNames (Effect.on (exchange.run events) world).2) :
    ∀ sending ∈ (Effect.on (exchange.run events) world).1,
      exchange.Returns (exchange.held (Effect.on (exchange.run events) world).2) sending := by
  induction events generalizing world with
  | nil =>
      intro sending member
      cases member
  | cons event later inductionHypothesis =>
      let middle := (Effect.on (exchange.act event) world).2
      have rest : Leads exchange.place middle (Effect.on (exchange.run later) middle).2 :=
        leads_run exchange later middle
      have properMiddle : ProperNames middle := proper.earlier (rest.goesOn exchange.lawful)
      -- What the first event sent has to outlast the rest of the run, and what is sent later
      -- needs an intact depot to begin with.
      have first : Preserves exchange.place middle world :=
        preserves_leads exchange.lawful intact (leads_act exchange event world) properMiddle
      have last : Preserves exchange.place (Effect.on (exchange.run later) middle).2 middle :=
        preserves_leads exchange.lawful first.intact rest proper
      intro sending member
      rw [on_run_cons] at member ⊢
      rcases List.mem_append.mp member with early | late
      · exact (returns_act intact (plain event List.mem_cons_self) properMiddle sending early).later
          last.keeps
      · exact inductionHypothesis first.intact
          (fun other member => plain other (List.mem_cons_of_mem _ member)) proper sending late

end Runs

/-- Whatever was sent during a run of an exchange over a fresh depot is received as it was sent when
it is polled after the run, in any batch. -/
theorem run_round_trips (exchange : Exchange δ κ ν) (start : World δ)
    (fresh : exchange.held start = { createsContainers := true }) (events : List (Event κ ν))
    (plain : ∀ event ∈ events, event.Plain)
    (proper : ProperNames (Effect.on (exchange.run events) start).2)
    (fetched : List (Sending κ ν))
    (sent : ∀ sending ∈ fetched, sending ∈ (Effect.on (exchange.run events) start).1) :
    (Action.on (exchange.consumer.poll (fetched.map Prod.snd))
        (Effect.on (exchange.run events) start).2).1 =
      .ok ⟨fetched.map fun (record, wire) => wire.received record.key record.value⟩ := by
  have returns := returns_run (intact_of_empty fresh) plain proper
  obtain ⟨journal, polled⟩ := exchange.on_poll (fetched.map Prod.snd)
    (Effect.on (exchange.run events) start).2
  have decoded := mapM_map_eq_ok fun sending member => returns sending (sent sending member)
  rw [polled, decoded]
  rfl

/-- Texts over and under the threshold and a record without a value return from a run that closes
the depot in between. -/
theorem run_round_trips_of_texts :
    let exchange := ofTexts 80
    let events : List (Event String String) :=
      [.send { topic := "orders", key := some "k", value := some "a text over the threshold" },
        .close, .send { topic := "orders", value := some "" }, .poll [],
        .send { topic := "orders", value := none }]
    let ran := Effect.on (exchange.run events) textsBegin
    exchange.held textsBegin = { createsContainers := true } ∧
      (∀ event ∈ events, event.Plain) ∧ ProperNames ran.2 ∧
      ran.1.length = 3 ∧ ran.2.namesIssued = 1 ∧
      (Action.on (exchange.consumer.poll (ran.1.map Prod.snd)) ran.2).1 =
        .ok ⟨ran.1.map fun (record, wire) => wire.received record.key record.value⟩ := by
  intro exchange events ran
  have plain : ∀ event ∈ events, event.Plain := by
    have topicOk : Text.IsComponent "orders" := by decide
    intro event member
    simp only [events, List.mem_cons, List.not_mem_nil, or_false] at member
    rcases member with rfl | rfl | rfl | rfl | rfl
    · exact ⟨topicOk, rfl, rfl⟩
    · trivial
    · exact ⟨topicOk, rfl, rfl⟩
    · trivial
    · exact ⟨topicOk, rfl, rfl⟩
  have issued : ran.2.namesIssued = 1 := by decide +kernel
  have goesOn : GoesOn ran.2 textsBegin :=
    (leads_run exchange events textsBegin).goesOn exchange.lawful
  have proper : ProperNames ran.2 :=
    properNames_of_series goesOn.nameSource (by rw [issued]; decide)
  refine ⟨rfl, plain, proper, by decide +kernel, issued, ?_⟩
  exact run_round_trips exchange textsBegin rfl events plain proper ran.1 fun _ member => member

end Exchange

end PayloadDepot
