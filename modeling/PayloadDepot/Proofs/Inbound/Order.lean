import PayloadDepot.Proofs.Exchange.Transparency

/-!
# Batches in order

A batch is decoded record by record, each in the world that the ones before it
left, and the first failure ends it.  A record that reports a failed check-in or
that refers to no payload makes no call of the depot; one that refers to a
payload makes one call, of that reference, and what stands in its value is not
looked at.  The same holds when values are restored afterwards.
-/

namespace PayloadDepot

variable {δ κ ν α β : Type}

namespace Action

variable {act : α → Action δ β} {values : List α} {world after : World δ} {results : List β}

end Action

section Records

variable {depot : Depot δ} {keyDeserializer : Deserializer δ κ}
  {valueDeserializer : Deserializer δ ν} {headers : Headers} {reference : Reference}
  {wire : WireRecord} {record : ConsumerRecord κ ν}

/-- Headers refer to a payload: they report no failure, and the first reference in them can be
read. -/
def Headers.Refers (headers : Headers) (reference : Reference) : Prop :=
  headers.first? failureKey = none ∧
    ∃ raw, headers.first? claimKey = some raw ∧ Reference.ofBytes raw = .ok reference

theorem Headers.refers_iff : headers.Refers reference ↔
    Outcome.ofHeaders headers = .ok (.externalized reference) := by
  rw [Refers, Outcome.ofHeaders]
  cases headers.first? failureKey with
  | some description => simp
  | none =>
      cases headers.first? claimKey with
      | none => simp
      | some raw => cases read : Reference.ofBytes raw <;> simp [read, Except.map]

/-- What is done about the value of a record with a ledger of the depot beside it: a reported
failure ends it without a call, a payload that the headers refer to is checked out once and gives
the value, and otherwise the depot is not called. -/
structure Consults (valueDeserializer : Deserializer δ ν) (topic : String) (headers : Headers)
    (world : World (δ × Ledger)) (ran : Except Fault (ConsumerRecord κ ν) × World (δ × Ledger)) :
    Prop where
  refused : ∀ raw, headers.first? Headers.failureKey = some raw →
    ran.1 = .error (.externalization (Text.Utf8.decodeLenient raw)) ∧
      ran.2.state.2 = world.state.2
  once : ∀ reference, headers.Refers reference → ∃ answer,
    ran.2.state.2 = world.state.2 ++ [.checkOut reference answer] ∧
    ∀ record, ran.1 = .ok record → ∃ payload before after, answer = .ok payload ∧
      Action.on (valueDeserializer.deserialize topic headers (some payload)) before =
        (.ok record.value, after)
  never : (∀ reference, ¬ headers.Refers reference) → ran.2.state.2 = world.state.2

namespace Consults

variable {topic : String} {world : World (δ × Ledger)}
  {ran : Except Fault (ConsumerRecord κ ν) × World (δ × Ledger)}

theorem of_failed {description : String}
    (told : Outcome.ofHeaders headers = .ok (.failed description))
    (refused : ran.1 = .error (.externalization description))
    (uncalled : ran.2.state.2 = world.state.2) :
    Consults valueDeserializer topic headers world ran where
  refused raw found := by
    cases told.symm.trans (Outcome.ofHeaders_of_failure found)
    exact ⟨refused, uncalled⟩
  once reference refers := by cases told.symm.trans (Headers.refers_iff.mp refers)
  never _ := uncalled

end Consults

end Records

end PayloadDepot
