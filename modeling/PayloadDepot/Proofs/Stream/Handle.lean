import PayloadDepot.Coding.Standard
import PayloadDepot.Proofs.Effect
import PayloadDepot.Proofs.Stream.Reader
import PayloadDepot.Storage.Depot

/-!
# Reading streams for a length

A stream that has enough bytes available is read for exactly its length and is
left just behind it; one that has not is read in vain.  Both the depots and the
serializer of streams read in this way, so they succeed for the same streams,
and neither changes anything but the reader.
-/

namespace PayloadDepot

variable {δ : Type}

def World.withReaders (world : World δ) (readers : Array Reader) : World δ :=
  { world with readers := readers }

@[simp]
theorem World.withReaders_state (world : World δ) (readers : Array Reader) :
    (world.withReaders readers).state = world.state := rfl

namespace StreamHandle

def items (stream : StreamHandle) (world : World δ) : List Item :=
  (stream.reader world).items

/-- The bytes of a stream that can be read on end. -/
def available (stream : StreamHandle) (world : World δ) : List UInt8 :=
  Item.available (stream.items world)

theorem reader_setReader (stream : StreamHandle) (reader : Reader) (world : World δ) :
    stream.reader (stream.setReader reader world) =
      if stream.index < world.readers.size then reader else ⟨[]⟩ := by
  by_cases bound : stream.index < world.readers.size <;>
    simp [StreamHandle.reader, setReader, Array.getD, bound]

variable (source : StreamHandle) (length : Nat) (world : World δ)

/-- A stream is left behind what was taken, also if no reader stands behind its handle. -/
theorem items_take :
    source.items (source.setReader ((source.reader world).take length).rest world) =
      Item.behind length (source.items world) := by
  rw [items, reader_setReader]
  split
  · exact Reader.items_rest_take ..
  · next missing =>
    have nothing : source.reader world = ⟨[]⟩ := by
      simp [StreamHandle.reader, Array.getD, missing]
    simp [items, nothing, Reader.items]

variable {source length world}

theorem on_take_of_le (enough : length ≤ (source.available world).length) :
    ∃ bytes readers, Effect.on (source.take length) world =
        (.ok bytes, world.withReaders readers) ∧ bytes.size = length ∧
      bytes.data.toList = (source.available world).take length ∧
      source.items (world.withReaders readers) = Item.behind length (source.items world) := by
  have size := (source.reader world).size_take length
  have whole : outcome ((source.reader world).take length) =
      .ok ((source.reader world).take length).bytes := by
    rw [outcome, Reader.fault_take_of_le _ _ enough]
  refine ⟨((source.reader world).take length).bytes, _, Prod.ext whole rfl, ?_,
    Reader.toList_take .., items_take ..⟩
  · exact size.trans (Nat.min_eq_left enough)

theorem on_take_of_lt (short : (source.available world).length < length) :
    ∃ outcome readers, Effect.on (source.take length) world =
        (outcome, world.withReaders readers) ∧
      ∀ bytes, outcome = .ok bytes → bytes.size ≠ length := by
  have size := (source.reader world).size_take length
  refine ⟨outcome ((source.reader world).take length), _, rfl, fun bytes given => ?_⟩
  rw [outcome] at given
  split at given
  · cases given
    rw [size]
    exact Nat.ne_of_lt (Nat.lt_of_le_of_lt (Nat.min_le_right ..) short)
  · cases given

theorem on_ofBytes (bytes : ByteArray) (world : World δ) :
    ∃ stream readers, Effect.on (ofBytes bytes) world = (stream, world.withReaders readers) ∧
      stream.items (world.withReaders readers) = bytes.data.toList.map .byte := by
  refine ⟨⟨world.readers.size⟩, world.readers.push (.ofBytes bytes), rfl, ?_⟩
  rw [items, ← Reader.items_ofBytes]
  simp [StreamHandle.reader, World.withReaders]

end StreamHandle

section Declared

variable {source : StreamHandle} {length : Nat} {world : World δ}

theorem Depot.on_readDeclared_of_le (enough : length ≤ (source.available world).length) :
    ∃ bytes readers, Action.on (readDeclared source length) world =
        (.ok bytes, world.withReaders readers) ∧
      bytes.data.toList = (source.available world).take length ∧
      source.items (world.withReaders readers) = Item.behind length (source.items world) := by
  obtain ⟨bytes, readers, took, size, taken, left⟩ := StreamHandle.on_take_of_le enough
  refine ⟨bytes, readers, ?_, taken, left⟩
  rw [readDeclared, Action.on_lift_bind, took]
  dsimp only
  rw [if_pos size, Action.on_pure]

theorem Depot.on_readDeclared_of_lt (short : (source.available world).length < length) :
    ∃ fault readers, Action.on (readDeclared source length) world =
      (.error fault, world.withReaders readers) := by
  obtain ⟨outcome, readers, took, other⟩ := StreamHandle.on_take_of_lt short
  rw [readDeclared, Action.on_lift_bind, took]
  cases outcome with
  | error fault => exact ⟨_, readers, rfl⟩
  | ok bytes =>
      dsimp only
      rw [if_neg (other bytes rfl)]
      exact ⟨_, readers, rfl⟩

variable {topic : String} {headers : Headers}

theorem Serializer.on_stream_of_undeclared {fault : Fault}
    (declared : headers.declaredLength = .error fault) :
    Action.on (stream.serialize topic headers (some source)) world = (.error fault, world) := by
  change Action.on (Action.ofExcept headers.declaredLength >>= _) world = _
  rw [Action.on_ofExcept_bind, declared]

theorem Serializer.on_stream_of_le (declared : headers.declaredLength = .ok length)
    (enough : length ≤ (source.available world).length) :
    ∃ bytes readers, Action.on (stream.serialize topic headers (some source)) world =
        (.ok (some bytes), world.withReaders readers) ∧
      bytes.data.toList = (source.available world).take length ∧
      source.items (world.withReaders readers) = Item.behind length (source.items world) := by
  obtain ⟨bytes, readers, took, size, taken, left⟩ := StreamHandle.on_take_of_le enough
  refine ⟨bytes, readers, ?_, taken, left⟩
  change Action.on (Action.ofExcept headers.declaredLength >>= _) world = _
  rw [Action.on_ofExcept_bind, declared]
  dsimp only
  rw [Action.on_lift_bind, StreamHandle.readExactly, Effect.on_bind, took]
  dsimp only
  rw [if_pos size]
  rfl

theorem Serializer.on_stream_of_lt (declared : headers.declaredLength = .ok length)
    (short : (source.available world).length < length) :
    ∃ fault readers, Action.on (stream.serialize topic headers (some source)) world =
      (.error fault, world.withReaders readers) := by
  obtain ⟨outcome, readers, took, other⟩ := StreamHandle.on_take_of_lt short
  change ∃ fault readers, Action.on (Action.ofExcept headers.declaredLength >>= _) world = _
  rw [Action.on_ofExcept_bind, declared]
  dsimp only
  rw [Action.on_lift_bind, StreamHandle.readExactly, Effect.on_bind, took]
  cases outcome with
  | error fault => exact ⟨_, readers, rfl⟩
  | ok bytes =>
      dsimp only
      rw [if_neg (other bytes rfl)]
      exact ⟨_, readers, rfl⟩

end Declared

end PayloadDepot
