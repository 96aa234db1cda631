import PayloadDepot.Proofs.Exchange.RoundTrip

/-!
# Records that hold a reference before they are sent

What was told first in the headers of a record counts.  A record that is sent
with the reference of an earlier one is therefore received with the payload that
this reference leads to, whatever its own value is and whether it was checked in
or not.  All other records are received as they were sent, and a record that
holds a report of failure is not sent at all.
-/

namespace PayloadDepot

variable {δ κ ν : Type}

namespace Exchange

open MemoryDepot

variable {exchange : Exchange δ κ ν} {world after : World δ} {record : ProducerRecord κ ν}
  {wire : WireRecord}

theorem holdsFailure_of_send
    (sent : Action.on (exchange.producer.send record) world = (.ok wire, after)) :
    record.headers.holdsFailure = false := by
  obtain ⟨-, -, kind⟩ := of_send_ok sent
  have written {headers : Headers} {value : Option ν}
      (sealed : exchange.valueCodec.encode.sealed record.topic headers value = .ok wire.value) :
      headers.holdsFailure = false := by
    rw [Bool.eq_false_iff]
    intro failure
    obtain ⟨description, told⟩ := Outcome.ofHeaders_of_holdsFailure failure
    rw [Encoder.sealed, told] at sealed
    cases sealed
  cases kind with
  | stays headers value held => exact written value
  | kept payload reference middle headers encoded value answer goesOn held =>
      have none := written value
      rwa [headers, Outcome.holdsFailure_apply_externalized] at none

/-- A record that held a reference is stored with headers that tell the same reference. -/
theorem exists_stale_of_send (claim : record.headers.holdsClaim = true)
    (sent : Action.on (exchange.producer.send record) world = (.ok wire, after)) :
    ∃ stale, Outcome.ofHeaders record.headers = .ok (.externalized stale) ∧
      Outcome.ofHeaders wire.headers = .ok (.externalized stale) := by
  obtain ⟨raw, told⟩ := Outcome.ofHeaders_of_holdsClaim (holdsFailure_of_send sent) claim
  obtain ⟨-, -, kind⟩ := of_send_ok sent
  have same : Outcome.ofHeaders wire.headers = Outcome.ofHeaders record.headers := by
    cases kind with
    | stays headers value held => rw [headers]
    | kept payload reference middle headers encoded value answer goesOn held =>
        rw [headers, Outcome.ofHeaders_apply_externalized_of_claim claim]
  have written : ∃ value, exchange.valueCodec.encode.sealed record.topic wire.headers value =
      .ok wire.value := by
    cases kind with
    | stays headers value held => exact ⟨_, by rw [headers]; exact value⟩
    | kept payload reference middle headers encoded value answer goesOn held => exact ⟨_, value⟩
  obtain ⟨value, sealed⟩ := written
  cases read : Reference.ofBytes raw with
  | error fault =>
      rw [Encoder.sealed, same, told, read] at sealed
      cases sealed
  | ok stale =>
      rw [read] at told
      exact ⟨stale, told, same.trans told⟩

theorem on_poll_single (exchange : Exchange δ κ ν) (wire : WireRecord) (world : World δ) :
    (Action.on (exchange.consumer.poll [wire]) world).1 =
      (exchange.polled (exchange.held world) wire).map fun received => ⟨[received]⟩ := by
  obtain ⟨journal, polled⟩ := exchange.on_poll [wire] world
  rw [polled, List.mapM_cons, List.mapM_nil]
  cases exchange.polled (exchange.held world) wire <;> rfl

theorem poll_single_eq_ok_iff {key : Option κ} {value : Option ν}
    (keyEq : exchange.keyCodec.decode wire.topic wire.headers wire.key = .ok key) :
    (Action.on (exchange.consumer.poll [wire]) world).1 = .ok ⟨[wire.received key value]⟩ ↔
      exchange.valueCodec.decode.restored (exchange.held world) wire.topic wire.headers
        wire.value = .ok value := by
  have polled : exchange.polled (exchange.held world) wire = .ok (wire.received key value) ↔
      exchange.valueCodec.decode.restored (exchange.held world) wire.topic wire.headers
        wire.value = .ok value :=
    WireRecord.decoded_eq_ok_iff.trans (and_iff_right keyEq)
  rw [← polled, on_poll_single]
  cases exchange.polled (exchange.held world) wire <;> simp [Except.map]

/-- A plain record that was sent in any state of a depot returns ever after. -/
theorem returns_of_leads {start later : World δ}
    (fresh : exchange.held start = { createsContainers := true })
    (reached : Leads exchange.place start world) (plain : Plain record)
    (sent : Action.on (exchange.producer.send record) world = (.ok wire, after))
    (leads : Leads exchange.place after later) (proper : ProperNames later) :
    exchange.Returns (exchange.held later) (record, wire) := by
  have properAfter := proper.earlier (leads.goesOn exchange.lawful)
  have passed : Leads exchange.place world after := by
    have through := leads_send exchange record world
    rwa [sent] at through
  have intact : Intact exchange.place world :=
    (preserves_leads exchange.lawful (intact_of_empty fresh) reached
      (properAfter.earlier (passed.goesOn exchange.lawful))).intact
  have preserved := preserves_leads exchange.lawful intact passed properAfter
  have kept := preserves_leads exchange.lawful preserved.intact leads proper
  exact (returns_send intact plain sent properAfter).later kept.keeps

/-- A record that was sent in any state of a depot is received with its own value exactly if its
headers held no reference before, or one that happens to lead to the same value; with any other
value it is received only if that is what the earlier reference leads to. -/
theorem send_returns_iff (exchange : Exchange δ κ ν) {start world after later : World δ}
    (fresh : exchange.held start = { createsContainers := true })
    (reached : Leads exchange.place start world) (record : ProducerRecord κ ν)
    (topicOk : Text.IsComponent record.topic) {wire : WireRecord}
    (sent : Action.on (exchange.producer.send record) world = (.ok wire, after))
    (leads : Leads exchange.place after later) (proper : ProperNames later) :
    let delivers (value : Option ν) : Prop :=
      (Action.on (exchange.consumer.poll [wire]) later).1 =
        .ok ⟨[wire.received record.key value]⟩
    let leadsTo (value : Option ν) : Prop :=
      ∃ stale payload, Outcome.ofHeaders record.headers = .ok (.externalized stale) ∧
        (exchange.held later).find stale = .ok payload ∧
        exchange.valueCodec.decode record.topic wire.headers (some payload) = .ok value
    record.headers.holdsFailure = false ∧
      (delivers record.value ↔ record.headers.holdsClaim = false ∨ leadsTo record.value) ∧
      (record.headers.holdsClaim = true → ∀ value, delivers value ↔ leadsTo value) := by
  intro delivers leadsTo
  have noFailure := holdsFailure_of_send sent
  obtain ⟨topic, written, -⟩ := of_send_ok sent
  have keyEq : exchange.keyCodec.decode wire.topic wire.headers wire.key = .ok record.key := by
    rw [topic]
    exact exchange.keyCodec.undoes.undo written
  have returned (noClaim : record.headers.holdsClaim = false) : delivers record.value := by
    have returns := returns_of_leads fresh reached ⟨topicOk, noClaim, noFailure⟩ sent leads proper
    exact (poll_single_eq_ok_iff keyEq).mpr (WireRecord.decoded_eq_ok_iff.mp returns).2
  have replaced (claim : record.headers.holdsClaim = true) (value : Option ν) :
      delivers value ↔ leadsTo value := by
    obtain ⟨stale, told, stored⟩ := exists_stale_of_send claim sent
    refine (poll_single_eq_ok_iff keyEq).trans ?_
    rw [Decoder.restored_eq_ok_iff_of_externalized stored, topic]
    constructor
    · rintro ⟨payload, found, decoded⟩
      exact ⟨stale, payload, told, found, decoded⟩
    · rintro ⟨other, payload, otherTold, found, decoded⟩
      obtain rfl : stale = other := by simpa [told] using otherTold
      exact ⟨payload, found, decoded⟩
  refine ⟨noFailure, ?_, replaced⟩
  cases claim : record.headers.holdsClaim with
  | false => exact ⟨fun _ => .inl rfl, fun _ => returned claim⟩
  | true => exact (replaced claim record.value).trans ⟨.inr, fun held => held.resolve_left nofun⟩

section Resent

/-- The world after a text was checked in. -/
def textsGoOn : World (MemoryDepot × Nat) :=
  (Action.on ((ofTexts 80).producer.send
    { topic := "orders", value := some "a text over the threshold" }) textsBegin).2

/-- A record with the headers of the one whose text was checked in. -/
def resent (value : Option String) : ProducerRecord String String where
  topic := "orders"
  value := value
  headers :=
    (Outcome.externalized (.compose scheme "orders" (BlobName.ofNumber 0 0))).apply .empty

theorem leads_textsGoOn : Leads (ofTexts 80).place textsBegin textsGoOn :=
  leads_send (ofTexts 80) _ textsBegin

/-- A record that is sent again is written, and all names that were issued are proper. -/
theorem exists_resent (value : Option String)
    (passes : (Action.on ((ofTexts 80).producer.send (resent value)) textsGoOn).1.toBool = true)
    (few : (Action.on ((ofTexts 80).producer.send (resent value)) textsGoOn).2.namesIssued ≤ 2) :
    ∃ wire after, Action.on ((ofTexts 80).producer.send (resent value)) textsGoOn =
      (.ok wire, after) ∧ ProperNames after := by
  have leads : Leads (ofTexts 80).place textsBegin
      (Action.on ((ofTexts 80).producer.send (resent value)) textsGoOn).2 :=
    leads_textsGoOn.trans (leads_send (ofTexts 80) (resent value) textsGoOn)
  have goesOn := leads.goesOn (ofTexts 80).lawful
  have proper := properNames_of_series goesOn.nameSource (Nat.le_trans few (by decide))
  rcases ran : Action.on ((ofTexts 80).producer.send (resent value)) textsGoOn with
    ⟨fault | wire, after⟩
  · rw [ran] at passes
    cases passes
  · rw [ran] at proper
    exact ⟨wire, after, rfl, proper⟩

/-- A deletion that is sent with a reference is not received as one. -/
theorem send_returns_iff_of_resent :
    (ofTexts 80).held textsBegin = { createsContainers := true } ∧
      Leads (ofTexts 80).place textsBegin textsGoOn ∧
      Text.IsComponent (resent none).topic ∧
      ∃ wire after, Action.on ((ofTexts 80).producer.send (resent none)) textsGoOn =
          (.ok wire, after) ∧
        Leads (ofTexts 80).place after after ∧ ProperNames after ∧
        (Action.on ((ofTexts 80).consumer.poll [wire]) after).1 ≠
          .ok ⟨[wire.received none none]⟩ := by
  have topicOk : Text.IsComponent (resent none).topic := by decide
  obtain ⟨wire, after, sent, proper⟩ :=
    exists_resent none (by decide +kernel) (by decide +kernel)
  have stays : Leads (ofTexts 80).place after after := .refl
  obtain ⟨-, returned, -⟩ := send_returns_iff (ofTexts 80) rfl leads_textsGoOn (resent none)
    topicOk sent stays proper
  refine ⟨rfl, leads_textsGoOn, topicOk, wire, after, sent, stays, proper, fun received => ?_⟩
  rcases returned.mp received with noClaim | ⟨stale, payload, -, -, decoded⟩
  · exact absurd noClaim (by decide)
  · have decoded : Text.decoder (resent none).topic wire.headers (some payload) = .ok none :=
      decoded
    rw [Text.decoder] at decoded
    revert decoded
    cases Text.Utf8.decode payload with
    | error fault =>
        intro decoded
        cases decoded
    | ok text =>
        intro decoded
        cases decoded

/-- A text that is sent with the reference of an earlier one is not received. -/
theorem resent_value_lost :
    ¬ ∀ (record : ProducerRecord String String) (wire : WireRecord)
      (world after : World (MemoryDepot × Nat)),
      Leads (ofTexts 80).place textsBegin world → Text.IsComponent record.topic →
      ProperNames after →
      Action.on ((ofTexts 80).producer.send record) world = (.ok wire, after) →
      (Action.on ((ofTexts 80).consumer.poll [wire]) after).1 =
        .ok ⟨[wire.received record.key record.value]⟩ := by
  intro claim
  have polls : (Action.on (do
      let wire ← (ofTexts 80).producer.send (resent (some "small"))
      let batch ← (ofTexts 80).consumer.poll [wire]
      return batch.records.map (·.value)) textsGoOn).1.toOption =
        some [some "a text over the threshold"] := by
    decide +kernel
  obtain ⟨wire, after, sent, proper⟩ :=
    exists_resent (some "small") (by decide +kernel) (by decide +kernel)
  have received := claim (resent (some "small")) wire textsGoOn after leads_textsGoOn (by decide)
    proper sent
  rcases polled : Action.on ((ofTexts 80).consumer.poll [wire]) after with ⟨outcome, last⟩
  rw [polled] at received
  subst received
  rw [Action.on_bind_of_ok sent, Action.on_bind_of_ok polled] at polls
  have values : [some "small"] = [some "a text over the threshold"] := Option.some.inj polls
  exact absurd values (by decide)

end Resent

end Exchange

end PayloadDepot
