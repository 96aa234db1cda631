import PayloadDepot.Proofs.Storage.MemoryRuns
import PayloadDepot.Proofs.Stream.Handle

/-!
# Redemption of references

A depot redeems a reference in a world if it hands one payload out under it, at
once and as a stream that is read to its end.  Both come from opening what the
reference leads to, so a reference is redeemed as long as it opens in the same
way.  A memory depot redeems it exactly if it leads to the payload.
-/

namespace PayloadDepot

variable {δ : Type}

/-- A payload is handed out under a reference, both at once and as a stream. -/
structure Depot.Redeems (depot : Depot δ) (reference : Reference) (payload : ByteArray)
    (world : World δ) : Prop where
  checkOut : (Action.on (depot.checkOut reference) world).1 = .ok payload
  checkOutStream : ∃ stream after, Action.on (depot.checkOutStream reference) world =
    (.ok stream, after) ∧ (Effect.on stream.drain after).1 = .ok payload

namespace StreamHandle

/-- A reader over bytes gives them all. -/
theorem outcome_drain_ofBytes (bytes : ByteArray) :
    outcome (Reader.ofBytes bytes).drain = .ok bytes := by
  simp [outcome, Reader.drain, Reader.ofBytes, Reader.drainFrom]

/-- A stream over a reader that was just put up is read like the reader. -/
theorem on_drain_ofReader (reader : Reader) (world : World δ) :
    (Effect.on (Effect.on (ofReader reader) world).1.drain
      (Effect.on (ofReader reader) world).2).1 = outcome reader.drain := by
  have put : StreamHandle.reader ⟨world.readers.size⟩
      { world with readers := world.readers.push reader } = reader := by
    simp [StreamHandle.reader]
  change outcome (StreamHandle.reader ⟨world.readers.size⟩
    { world with readers := world.readers.push reader }).drain = _
  rw [put]

theorem on_drain_ofBytes (bytes : ByteArray) (world : World δ) :
    (Effect.on (Effect.on (ofBytes bytes) world).1.drain
      (Effect.on (ofBytes bytes) world).2).1 = .ok bytes :=
  (on_drain_ofReader _ world).trans (outcome_drain_ofBytes bytes)

end StreamHandle

section Opening

variable {α : Type} {depot : Depot δ} {opening : Reference → Action δ α}
  {whole : Reference → α → Except Fault ByteArray} {reader : α → Reader} {reference : Reference}
  {payload : ByteArray} {world after : World δ}

/-- What a depot hands out is what it finds when it opens a reference, all of it at once or a reader
over it. -/
structure Depot.Opens (depot : Depot δ) (opening : Reference → Action δ α)
    (whole : Reference → α → Except Fault ByteArray) (reader : α → Reader) : Prop where
  checkOut : ∀ reference world, (Action.on (depot.checkOut reference) world).1 =
    (Action.on (opening reference) world).1.bind (whole reference)
  checkOutStream : ∀ reference, depot.checkOutStream reference = (do
    let found ← opening reference
    Action.lift (StreamHandle.ofReader (reader found)))

namespace Depot.Opens

theorem redeems_iff (opens : depot.Opens opening whole reader) :
    depot.Redeems reference payload world ↔
      ∃ found, (Action.on (opening reference) world).1 = .ok found ∧
        whole reference found = .ok payload ∧
          StreamHandle.outcome (reader found).drain = .ok payload := by
  have out := opens.checkOut reference world
  rcases opened : Action.on (opening reference) world with ⟨fault | found, middle⟩
  · rw [opened] at out
    refine ⟨fun redeems => ?_, fun ⟨found, impossible, _⟩ => by cases impossible⟩
    have given := redeems.checkOut
    rw [out] at given
    cases given
  · rw [opened] at out
    have streamed : Action.on (depot.checkOutStream reference) world =
        Action.on (Action.lift (StreamHandle.ofReader (reader found))) middle := by
      rw [opens.checkOutStream, Action.on_bind_of_ok opened]
    constructor
    · rintro ⟨given, stream, after, streams, drained⟩
      rw [out] at given
      rw [streamed] at streams
      cases streams
      exact ⟨found, rfl, given, (StreamHandle.on_drain_ofReader _ middle).symm.trans drained⟩
    · rintro ⟨_, ⟨⟩, given, drained⟩
      exact ⟨out.trans given, _, _, streamed,
        (StreamHandle.on_drain_ofReader _ middle).trans drained⟩

/-- References lead where they did if opening them ends as it did. -/
theorem redeems_congr (opens : depot.Opens opening whole reader)
    (same : (Action.on (opening reference) after).1 = (Action.on (opening reference) world).1) :
    depot.Redeems reference payload after ↔ depot.Redeems reference payload world := by
  rw [opens.redeems_iff, opens.redeems_iff, same]

end Depot.Opens

end Opening

namespace MemoryDepot

variable {place : Cell δ MemoryDepot} {reference : Reference} {payload : ByteArray}
  {world : World δ}

theorem redeems_iff :
    (depot place).Redeems reference payload world ↔
      (place.read world.state).find reference = .ok payload := by
  have once : Action.on (checkOut place reference) world =
      ((place.read world.state).find reference, world) := on_checkOut place reference world
  constructor
  · intro redeems
    have out : (Action.on (checkOut place reference) world).1 = .ok payload := redeems.checkOut
    rwa [once] at out
  · intro found
    rw [found] at once
    exact ⟨congrArg Prod.fst once, _, _, Action.on_bind_of_ok once _,
      StreamHandle.on_drain_ofBytes payload world⟩

end MemoryDepot

end PayloadDepot
