import PayloadDepot.Inbound.Consumer
import PayloadDepot.Proofs.Coding
import PayloadDepot.Proofs.Storage.MemoryRuns

/-!
# The course of a poll

A poll over a memory depot changes nothing but the journal.  What it gives
follows from what the depot holds: a value that was checked in is read from the
payload that its reference leads to.
-/

namespace PayloadDepot

variable {δ κ ν : Type}

/-- The value of stored bytes for those who check payloads out of a depot. -/
def Decoder.restored (decode : Decoder ν) (depot : MemoryDepot) : Decoder ν :=
  fun topic headers bytes =>
    match Outcome.ofHeaders headers with
    | .error fault => .error fault
    | .ok (.failed description) => .error (.externalization description)
    | .ok .passthrough => decode topic headers bytes
    | .ok (.externalized reference) =>
        match depot.find reference with
        | .error fault => .error fault
        | .ok payload => decode topic headers (some payload)

namespace Decoder

variable {decode : Decoder ν} {depot : MemoryDepot} {topic : String} {headers : Headers}
  {bytes : Option ByteArray}

theorem restored_of_passthrough (told : Outcome.ofHeaders headers = .ok .passthrough) :
    decode.restored depot topic headers bytes = decode topic headers bytes := by
  rw [restored, told]

theorem restored_of_externalized {reference : Reference}
    (told : Outcome.ofHeaders headers = .ok (.externalized reference)) :
    decode.restored depot topic headers bytes =
      depot.find reference >>= fun payload => decode topic headers (some payload) := by
  rw [restored, told]
  dsimp only
  cases depot.find reference <;> rfl

theorem restored_eq_ok_iff_of_externalized {reference : Reference}
    (told : Outcome.ofHeaders headers = .ok (.externalized reference)) {value : Option ν} :
    decode.restored depot topic headers bytes = .ok value ↔
      ∃ payload, depot.find reference = .ok payload ∧
        decode topic headers (some payload) = .ok value := by
  rw [restored_of_externalized told]
  cases found : depot.find reference with
  | error fault => simp [bind, Except.bind]
  | ok payload => simp [bind, Except.bind]

end Decoder

def WireRecord.received (wire : WireRecord) (key : Option κ) (value : Option ν) :
    ConsumerRecord κ ν :=
  ⟨wire.topic, wire.partition, wire.offset, wire.timestamp, key, value, wire.headers⟩

def WireRecord.decoded (decodeKey : Decoder κ) (decodeValue : Decoder ν) (wire : WireRecord) :
    Except Fault (ConsumerRecord κ ν) := do
  let key ← decodeKey wire.topic wire.headers wire.key
  let value ← decodeValue wire.topic wire.headers wire.value
  return wire.received key value

/-- The consumer that checks values out of a depot. -/
def Consumer.checkingOut (depot : Depot δ) (keyDeserializer : Deserializer δ κ)
    (valueDeserializer : Deserializer δ ν) : Consumer δ κ ν where
  keyDeserializer := keyDeserializer
  valueDeserializer := .restoring depot valueDeserializer

theorem WireRecord.decoded_eq_ok_iff {decodeKey : Decoder κ} {decodeValue : Decoder ν}
    {wire : WireRecord} {key : Option κ} {value : Option ν} :
    wire.decoded decodeKey decodeValue = .ok (wire.received key value) ↔
      decodeKey wire.topic wire.headers wire.key = .ok key ∧
        decodeValue wire.topic wire.headers wire.value = .ok value := by
  rw [decoded]
  cases decodeKey wire.topic wire.headers wire.key with
  | error fault => simp [bind, Except.bind]
  | ok readKey =>
      cases decodeValue wire.topic wire.headers wire.value with
      | error fault => simp [bind, Except.bind]
      | ok readValue => simp [bind, Except.bind, pure, Except.pure, received]

section Notes

variable {α β : Type} {act : α → Action δ β} {compute : α → Except Fault β} {world : World δ}

/-- Actions that do nothing but add lines to the journal add them one after the other. -/
theorem Action.on_mapM_of_notes
    (notes : ∀ value earlier, ∃ journal, Action.on (act value) (world.withJournal earlier) =
      (compute value, world.withJournal journal)) (values : List α)
    (earlier : Array JournalLine) :
    ∃ journal, Action.on (values.mapM act) (world.withJournal earlier) =
      (values.mapM compute, world.withJournal journal) := by
  induction values generalizing earlier with
  | nil => exact ⟨earlier, rfl⟩
  | cons value later inductionHypothesis =>
      obtain ⟨middle, first⟩ := notes value earlier
      rw [List.mapM_cons, List.mapM_cons]
      cases computed : compute value with
      | error fault =>
          rw [computed] at first
          exact ⟨middle, Action.on_bind_of_error first _⟩
      | ok result =>
          rw [computed] at first
          obtain ⟨journal, rest⟩ := inductionHypothesis middle
          refine ⟨journal, (Action.on_bind_of_ok first _).trans ?_⟩
          rw [Action.on_bind, rest]
          cases later.mapM compute <;> rfl

theorem mapM_map_eq_ok {γ : Type} {source : γ → α} {results : γ → β} {values : List γ}
    (computes : ∀ value ∈ values, compute (source value) = .ok (results value)) :
    (values.map source).mapM compute = .ok (values.map results) := by
  induction values with
  | nil => rfl
  | cons value later inductionHypothesis =>
      have first := computes value List.mem_cons_self
      have rest := inductionHypothesis fun other member =>
        computes other (List.mem_cons_of_mem _ member)
      rw [List.map_cons, List.mapM_cons, first, rest]
      rfl

end Notes

section Course

variable {place : Cell δ MemoryDepot} {keyDeserializer : Deserializer δ κ}
  {valueDeserializer : Deserializer δ ν} {decodeKey : Decoder κ} {decodeValue : Decoder ν}

theorem Deserializer.on_restoring (computes : valueDeserializer.Computes decodeValue)
    (topic : String) (headers : Headers) (bytes : Option ByteArray) (world : World δ) :
    ∃ journal, Action.on
        ((restoring (MemoryDepot.depot place) valueDeserializer).deserialize topic headers bytes)
        world =
      (decodeValue.restored (place.read world.state) topic headers bytes,
        world.withJournal journal) := by
  rw [Decoder.restored]
  change ∃ journal, Action.on (Action.ofExcept (Outcome.ofHeaders headers) >>= _) world = _
  rw [Action.on_ofExcept_bind]
  cases Outcome.ofHeaders headers with
  | error fault => exact ⟨world.journal, rfl⟩
  | ok outcome =>
      cases outcome with
      | failed description => exact ⟨world.journal, rfl⟩
      | passthrough =>
          refine ⟨world.journal, ?_⟩
          dsimp only
          rw [computes, Action.on_ofExcept]
          rfl
      | externalized reference =>
          let journal := world.journal.push
            ⟨.trace, s!"received claim check: topic={topic}, ref={reference.text}"⟩
          have found : Action.on (MemoryDepot.checkOut place reference)
              (world.withJournal journal) =
                ((place.read world.state).find reference, world.withJournal journal) := by
            simp
          refine ⟨journal, ?_⟩
          dsimp only
          rw [Action.on_lift_bind, World.on_log]
          cases leads : (place.read world.state).find reference with
          | error fault =>
              rw [leads] at found
              exact Action.on_bind_of_error found _
          | ok payload =>
              rw [leads] at found
              refine (Action.on_bind_of_ok found _).trans ?_
              rw [computes, Action.on_ofExcept]

theorem Consumer.on_decode (keys : keyDeserializer.Computes decodeKey)
    (values : valueDeserializer.Computes decodeValue) (wire : WireRecord) (world : World δ) :
    ∃ journal, Action.on
        ((checkingOut (MemoryDepot.depot place) keyDeserializer valueDeserializer).decode wire)
        world =
      (wire.decoded decodeKey (decodeValue.restored (place.read world.state)),
        world.withJournal journal) := by
  obtain ⟨journal, restored⟩ : ∃ journal, Action.on ((Deserializer.restoring
      (MemoryDepot.depot place) valueDeserializer).deserialize wire.topic wire.headers wire.value)
      world = _ :=
    Deserializer.on_restoring values wire.topic wire.headers wire.value world
  rw [decode, WireRecord.decoded]
  simp only [checkingOut, keys wire.topic, Action.on_ofExcept_bind]
  cases decodeKey wire.topic wire.headers wire.key with
  | error fault => exact ⟨world.journal, rfl⟩
  | ok key =>
      refine ⟨journal, ?_⟩
      dsimp only
      rw [Action.on_bind, restored]
      cases decodeValue.restored (place.read world.state) wire.topic wire.headers wire.value <;> rfl

/-- A batch is decoded record by record, over the same depot throughout. -/
theorem Consumer.on_poll (keys : keyDeserializer.Computes decodeKey)
    (values : valueDeserializer.Computes decodeValue) (fetched : List WireRecord)
    (world : World δ) :
    ∃ journal, Action.on
        ((checkingOut (MemoryDepot.depot place) keyDeserializer valueDeserializer).poll fetched)
        world =
      ((fetched.mapM (WireRecord.decoded decodeKey
          (decodeValue.restored (place.read world.state)))).map Batch.mk,
        world.withJournal journal) := by
  have notes : ∀ wire earlier, ∃ journal, Action.on ((checkingOut (MemoryDepot.depot place)
        keyDeserializer valueDeserializer).decode wire) (world.withJournal earlier) =
      (wire.decoded decodeKey (decodeValue.restored (place.read world.state)),
        world.withJournal journal) :=
    fun wire earlier => on_decode keys values wire (world.withJournal earlier)
  obtain ⟨journal, decoded⟩ := Action.on_mapM_of_notes notes fetched world.journal
  rw [World.withJournal_journal] at decoded
  refine ⟨journal, ?_⟩
  rw [poll, Action.on_bind, decoded]
  cases fetched.mapM (WireRecord.decoded decodeKey
    (decodeValue.restored (place.read world.state))) <;> rfl

end Course

end PayloadDepot
