import PayloadDepot.Proofs.Outbound.Threshold
import PayloadDepot.Proofs.Wire.Growth

/-!
# A threshold is a single cut-off

Since the estimated size grows with every byte, a threshold cuts the lengths of
values in two: below some length they stay in their records, and from there on
they are all handed in.  Where the cut lies depends on the threshold, the bytes
of the key and the headers, and on nothing else.
-/

namespace PayloadDepot

variable {δ κ ν : Type}

namespace CheckIn

/-- The depot of a stage is asked to keep a payload, and for nothing else, while a record passes the
interceptor. -/
def HandsIn (stage : CheckIn δ κ ν) (record : ProducerRecord κ ν) (world : World (δ × Ledger))
    (payload : ByteArray) : Prop :=
  ∃ answer, (Effect.on (stage.ledgered.onSend record) world).2.state.2 =
    world.state.2 ++ [.checkIn record.topic payload answer]

/-- A record has a value, and the serializers of a stage give these bytes for its key and for its
value. -/
structure Presents (stage : CheckIn δ κ ν) (record : ProducerRecord κ ν)
    (world : World (δ × Ledger)) (key : Option ByteArray) (payload : ByteArray) : Prop where
  present : record.value.isSome
  encoded : (Action.on (stage.ledgered.encode record) world).1 = .ok (key, some payload)

variable {stage : CheckIn δ κ ν} {record : ProducerRecord κ ν} {world : World (δ × Ledger)}
  {key : Option ByteArray} {payload : ByteArray}

/-- A payload is handed in exactly if the record is over the threshold with it. -/
theorem handsIn_iff_exceeds (estimates : stage.policy.estimator = Framing.estimate) :
    stage.HandsIn record world payload ↔ stage.ledgered.Exceeds record world payload := by
  obtain ⟨calls, entered, above⟩ :=
    exists_calls_of_passes estimates (stage.ledgered.passes_onSend record world)
  rw [← above.above payload, HandsIn, entered]
  simp only [List.append_cancel_left_eq]

/-- Whether what the serializers give is handed in is decided by the estimate, at any time. -/
theorem Presents.handsIn_iff (presents : stage.Presents record world key payload)
    (estimates : stage.policy.estimator = Framing.estimate) (now : Int) :
    stage.HandsIn record world payload ↔
      stage.policy.threshold < Framing.estimate key (some payload.size) record.headers now := by
  rw [handsIn_iff_exceeds estimates]
  constructor
  · rintro ⟨-, other, after, encoded, large⟩
    have given := presents.encoded
    rw [encoded] at given
    cases given
    exact large
  · intro large
    exact ⟨presents.present, key, _, Prod.ext presents.encoded rfl, large⟩

end CheckIn

/-- The estimated size grows by one to three with a byte of the value or of the key and by more with
a header, wherever it is added, and it does not depend on the order of the headers.  So a threshold,
the bytes of a key and some headers have a length from which on values are handed in, whatever the
depot, the serializers and the rest of the record are. -/
theorem threshold_cuts_off_lengths :
    (∀ (key : Option ByteArray) (length : Nat) (headers : Headers) (now later : Int),
      let size := Framing.estimate key (some length) headers now
      let grown := Framing.estimate key (some (length + 1)) headers later
      size + 1 ≤ grown ∧ grown ≤ size + 3) ∧
    (∀ (key longer : ByteArray) (valueLength : Option Nat) (headers : Headers) (now later : Int),
      longer.size = key.size + 1 →
        let size := Framing.estimate (some key) valueLength headers now
        let grown := Framing.estimate (some longer) valueLength headers later
        size + 1 ≤ grown ∧ grown ≤ size + 3) ∧
    (∀ (key : Option ByteArray) (valueLength : Option Nat) (before after : List Header)
      (header : Header) (now later : Int),
      Framing.estimate key valueLength ⟨before ++ after⟩ now +
          (2 + header.key.utf8ByteSize + header.value.size) ≤
        Framing.estimate key valueLength ⟨before ++ header :: after⟩ later) ∧
    (∀ (key : Option ByteArray) (valueLength : Option Nat) (headers others : Headers)
      (now later : Int), headers.entries.Perm others.entries →
        Framing.estimate key valueLength headers now =
          Framing.estimate key valueLength others later) ∧
    ∀ (threshold : Nat) (key : Option ByteArray) (headers : Headers), ∃ cut,
      ∀ (depot : Depot δ) (keySerializer : Serializer δ κ) (valueSerializer : Serializer δ ν),
        let stage : CheckIn δ κ ν :=
          { depot, keySerializer, valueSerializer, policy := { threshold } }
        ∀ (record : ProducerRecord κ ν) (world : World (δ × Ledger)) (payload : ByteArray),
          record.headers = headers → stage.Presents record world key payload →
            (stage.HandsIn record world payload ↔ cut ≤ payload.size) := by
  refine ⟨Framing.estimate_succ_value, ?_, Framing.estimate_insert, ?_, ?_⟩
  · intro key longer valueLength headers now later oneMore
    exact Framing.estimate_succ_key oneMore valueLength headers now later
  · intro key valueLength headers others now later same
    exact Framing.estimate_perm same key valueLength now later
  · intro threshold key headers
    obtain ⟨cut, beyond⟩ := Framing.exists_cut key headers threshold
    use cut
    intro depot keySerializer valueSerializer stage record world payload sameHeaders presents
    rw [presents.handsIn_iff rfl 0, sameHeaders]
    exact beyond payload.size 0

/-- A value of seven bytes is handed in over a threshold of 75, and so is a longer one. -/
theorem threshold_cuts_off_lengths_of_texts :
    let depot : Depot RehearsalDepot := RehearsalDepot.depot .whole
    let world : World (RehearsalDepot × Ledger) := .initial 0 .empty ({}, [])
    let stage : CheckIn RehearsalDepot String String :=
      { depot, keySerializer := .text, valueSerializer := .text, policy := { threshold := 75 } }
    let record : ProducerRecord String String :=
      { topic := "orders", key := some "k", value := some "payload" }
    let longer : ProducerRecord String String :=
      { topic := "invoices", key := some "k", value := some "payload and more" }
    let key := "k".toUTF8
    let headers : Headers := (Headers.empty.add "a" "1".toUTF8).add "b" "2".toUTF8
    let others : Headers := (Headers.empty.add "b" "2".toUTF8).add "a" "1".toUTF8
    ("kk".toUTF8.size = key.size + 1 ∧
      Framing.estimate (some key) (some 7) .empty 0 + 1 ≤
        Framing.estimate (some "kk".toUTF8) (some 7) .empty 0) ∧
    (headers.entries.Perm others.entries ∧
      Framing.estimate (some key) (some 7) headers 0 =
        Framing.estimate (some key) (some 7) others 0) ∧
    stage.Presents record world (some key) "payload".toUTF8 ∧
    stage.HandsIn record world "payload".toUTF8 ∧
    stage.Presents longer world (some key) "payload and more".toUTF8 ∧
    stage.HandsIn longer world "payload and more".toUTF8 := by
  intro depot world stage record longer key headers others
  obtain ⟨-, longerKey, -, order, cutOff⟩ :=
    threshold_cuts_off_lengths (δ := RehearsalDepot) (κ := String) (ν := String)
  obtain ⟨cut, beyond⟩ := cutOff 75 (some key) .empty
  have oneMore : "kk".toUTF8.size = key.size + 1 := by decide
  have swapped : headers.entries.Perm others.entries := List.Perm.swap _ _ _
  have presents : stage.Presents record world (some key) "payload".toUTF8 := ⟨rfl, rfl⟩
  have presentsLonger : stage.Presents longer world (some key) "payload and more".toUTF8 :=
    ⟨rfl, rfl⟩
  have handsIn : stage.HandsIn record world "payload".toUTF8 := by
    rw [presents.handsIn_iff rfl 0]
    decide +kernel
  have least : cut ≤ "payload".toUTF8.size :=
    (beyond depot .text .text record world _ rfl presents).mp handsIn
  have enough : "payload".toUTF8.size ≤ "payload and more".toUTF8.size := by decide
  exact ⟨⟨oneMore, (longerKey key _ _ _ 0 0 oneMore).1⟩, ⟨swapped, order _ _ _ _ 0 0 swapped⟩,
    presents, handsIn, presentsLonger,
    (beyond depot .text .text longer world _ rfl presentsLonger).mpr (Nat.le_trans least enough)⟩

end PayloadDepot
