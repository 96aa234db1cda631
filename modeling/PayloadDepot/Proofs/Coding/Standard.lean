import PayloadDepot.Proofs.Coding

/-!
# The codecs that codec sets offer

The codecs for bytes, texts and JSON are functions on values that are there.
They differ in what they make of no bytes at all: these are an empty sequence
and an empty text, but no JSON text is empty.
-/

namespace PayloadDepot

variable {δ ν : Type}

/-- What the serializer of a function computes. -/
def Encoder.ofFunction (encode : ν → Except Fault ByteArray) : Encoder ν :=
  fun _ _ value =>
    match value with
    | none => .ok none
    | some present => (encode present).map some

/-- What the deserializer of a function computes. -/
def Decoder.ofFunction (decode : ByteArray → Except Fault ν) : Decoder ν :=
  fun _ _ bytes =>
    match bytes with
    | none => .ok none
    | some present => (decode present).map some

theorem Serializer.computes_ofFunction (id : String) (encode : ν → Except Fault ByteArray) :
    (ofFunction id encode : Serializer δ ν).Computes (.ofFunction encode) := by
  intro topic headers value
  cases value with
  | none => rfl
  | some present =>
      simp only [ofFunction, Encoder.ofFunction]
      cases encode present <;> rfl

theorem Deserializer.computes_ofFunction (id : String) (decode : ByteArray → Except Fault ν) :
    (ofFunction id decode : Deserializer δ ν).Computes (.ofFunction decode) := by
  intro topic headers bytes
  cases bytes with
  | none => rfl
  | some present =>
      simp only [ofFunction, Decoder.ofFunction]
      cases decode present <;> rfl

/-- A JSON form that is read from no value of which nothing is there. -/
class JsonForm.Substantial (ν : Type) [JsonForm ν] : Prop where
  exists_read_empty : ∃ fault, JsonForm.read (ν := ν) ByteArray.empty = .error fault

instance : JsonForm.Substantial Json := ⟨_, rfl⟩

instance : JsonForm.Substantial String := ⟨_, rfl⟩

instance : JsonForm.Substantial Document := ⟨_, rfl⟩

namespace CodecSet

/-- The sets whose codecs both write and read. -/
inductive Standard : {ν : Type} → CodecSet δ ν → Prop
  | bytes : Standard forBytes
  | texts : Standard forTexts
  | json {ν : Type} [JsonForm ν] [JsonForm.Substantial ν] : Standard (forJson (ν := ν))

/-- A codec of a set, under its identifier. -/
structure Offers (codecs : CodecSet δ ν) (id : String) (serializer : Serializer δ ν)
    (deserializer : Deserializer δ ν) : Prop where
  writes : codecs.serializer id = .ok serializer
  reads : codecs.deserializer id = .ok deserializer

variable {codecs : CodecSet δ ν} {id : String} {serializer only : Serializer δ ν}
  {deserializer onlyDeserializer : Deserializer δ ν}

/-- A set that was given one codec offers no other. -/
theorem Offers.of_single
    (offers : ((empty.addSerializer only).addDeserializer onlyDeserializer).Offers id serializer
      deserializer) :
    id = only.id ∧ serializer = only ∧ deserializer = onlyDeserializer := by
  obtain ⟨writes, reads⟩ := offers
  have named : id = only.id := by
    refine Decidable.byContradiction fun different => ?_
    simp [CodecSet.serializer, addSerializer, addDeserializer, empty,
      Table.get?_insert_of_ne different] at writes
  subst named
  have namedBoth : only.id = onlyDeserializer.id := by
    refine Decidable.byContradiction fun different => ?_
    simp [CodecSet.deserializer, addSerializer, addDeserializer, empty,
      Table.get?_insert_of_ne different] at reads
  simp only [CodecSet.serializer, addSerializer, addDeserializer, Table.get?_insert_self,
    Except.ok.injEq] at writes
  simp only [CodecSet.deserializer, addSerializer, addDeserializer, namedBoth,
    Table.get?_insert_self, Except.ok.injEq] at reads
  exact ⟨rfl, writes.symm, reads.symm⟩

/-- Every codec that is offered is a function on the values that are there, and all but the one for
JSON read a value from no bytes. -/
theorem Standard.exists_functions (standard : codecs.Standard)
    (offers : codecs.Offers id serializer deserializer) :
    ∃ encode decode, serializer.Computes (.ofFunction encode) ∧
      deserializer.Computes (.ofFunction decode) ∧
      ((∃ value, decode ByteArray.empty = .ok value) ↔ id ≠ "json") := by
  cases standard with
  | bytes =>
      obtain ⟨rfl, rfl, rfl⟩ := offers.of_single
      exact ⟨_, _, Serializer.computes_ofFunction _ _, Deserializer.computes_ofFunction _ _,
        fun _ => (by decide : "bytes" ≠ "json"), fun _ => ⟨_, rfl⟩⟩
  | texts =>
      obtain ⟨rfl, rfl, rfl⟩ := offers.of_single
      exact ⟨_, _, Serializer.computes_ofFunction _ _, Deserializer.computes_ofFunction _ _,
        fun _ => (by decide : "string" ≠ "json"), fun _ => ⟨"", rfl⟩⟩
  | json =>
      obtain ⟨rfl, rfl, rfl⟩ := offers.of_single
      refine ⟨_, _, Serializer.computes_ofFunction _ _, Deserializer.computes_ofFunction _ _,
        fun ⟨value, read⟩ => ?_, fun different => absurd rfl different⟩
      obtain ⟨fault, refused⟩ := JsonForm.Substantial.exists_read_empty (ν := ν)
      rw [refused] at read
      cases read

end CodecSet

end PayloadDepot
