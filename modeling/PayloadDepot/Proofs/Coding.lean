import PayloadDepot.Coding.Standard
import PayloadDepot.Inbound.Restoring
import PayloadDepot.Outbound.Sealing
import PayloadDepot.Proofs.Effect

/-!
# Codecs that compute

A codec computes if what it gives follows from the topic, the headers and the
value alone and it leaves the world as it is.  The standard codecs for texts do,
and a sealing serializer computes if the one inside of it does.
-/

namespace PayloadDepot

/-- What a serializer computes. -/
abbrev Encoder (ν : Type) := String → Headers → Option ν → Except Fault (Option ByteArray)

/-- What a deserializer computes. -/
abbrev Decoder (ν : Type) := String → Headers → Option ByteArray → Except Fault (Option ν)

variable {δ ν : Type}

/-- A serializer that does nothing but compute its bytes. -/
def Serializer.Computes (serializer : Serializer δ ν) (encode : Encoder ν) : Prop :=
  ∀ topic headers value,
    serializer.serialize topic headers value = Action.ofExcept (encode topic headers value)

/-- The serializer that computes what an encoder gives. -/
def Encoder.serializer (encode : Encoder ν) (id : String) : Serializer δ ν where
  id := id
  serialize topic headers value := Action.ofExcept (encode topic headers value)

/-- A deserializer that does nothing but compute its value. -/
def Deserializer.Computes (deserializer : Deserializer δ ν) (decode : Decoder ν) : Prop :=
  ∀ topic headers bytes,
    deserializer.deserialize topic headers bytes = Action.ofExcept (decode topic headers bytes)

/-- An encoder that takes no notice of the outcomes that headers tell. -/
def Encoder.Blind (encode : Encoder ν) : Prop :=
  ∀ topic headers (outcome : Outcome) value,
    encode topic (outcome.apply headers) value = encode topic headers value

/-- The bytes that are stored for a value, which the outcome in its headers decides. -/
def Encoder.sealed (encode : Encoder ν) : Encoder ν :=
  fun topic headers value =>
    match Outcome.ofHeaders headers with
    | .error fault => .error fault
    | .ok (.failed description) => .error (.externalization description)
    | .ok (.externalized _) => .ok (some ByteArray.empty)
    | .ok .passthrough => encode topic headers value

namespace Serializer

variable {wrapped : Serializer δ ν} {topic : String} {headers : Headers} {value : Option ν}

theorem serialize_sealing_of_passthrough (told : Outcome.ofHeaders headers = .ok .passthrough) :
    wrapped.sealing.serialize topic headers value = wrapped.serialize topic headers value := by
  rw [sealing]
  dsimp only
  rw [told]
  rfl

theorem serialize_sealing_of_externalized {reference : Reference}
    (told : Outcome.ofHeaders headers = .ok (.externalized reference)) :
    wrapped.sealing.serialize topic headers value = pure (some ByteArray.empty) := by
  rw [sealing]
  dsimp only
  rw [told]
  rfl

theorem serialize_sealing_of_failed {description : String}
    (told : Outcome.ofHeaders headers = .ok (.failed description)) :
    wrapped.sealing.serialize topic headers value =
      Action.fail (.externalization description) := by
  rw [sealing]
  dsimp only
  rw [told]
  rfl

end Serializer

theorem Serializer.Computes.sealing {serializer : Serializer δ ν} {encode : Encoder ν}
    (computes : serializer.Computes encode) :
    serializer.sealing.Computes (Encoder.sealed encode) := by
  intro topic headers value
  simp only [Serializer.sealing, Encoder.sealed]
  cases Outcome.ofHeaders headers with
  | error fault => rfl
  | ok outcome =>
      cases outcome with
      | passthrough => exact computes topic headers value
      | externalized reference => rfl
      | failed description => rfl

/-- A deserializer undoes a serializer if it gives the value back whose bytes it is given, also
after a reference was added to the headers. -/
structure Decoder.Undoes (decode : Decoder ν) (encode : Encoder ν) : Prop where
  undo : ∀ {topic headers value bytes}, encode topic headers value = .ok bytes →
    decode topic headers bytes = .ok value
  undo_add : ∀ {topic headers value bytes} (reference : Reference),
    encode topic headers value = .ok bytes →
      decode topic ((Outcome.externalized reference).apply headers) bytes = .ok value

/-- A codec that only computes and whose reading undoes its writing. -/
structure PureCodec (δ ν : Type) where
  serializer : Serializer δ ν
  deserializer : Deserializer δ ν
  encode : Encoder ν
  decode : Decoder ν
  writes : serializer.Computes encode
  reads : deserializer.Computes decode
  undoes : decode.Undoes encode

namespace Text

def encoder : Encoder String :=
  fun _ _ value => .ok (value.map String.toUTF8)

def decoder : Decoder String :=
  fun _ _ bytes =>
    match bytes with
    | none => .ok none
    | some present =>
        ((Utf8.decode present).mapError (fun fault => .coding (.encoding fault))).map some

theorem computes_encoder : (Serializer.text : Serializer δ String).Computes encoder := by
  intro topic headers value
  cases value <;> rfl

theorem computes_decoder : (Deserializer.text : Deserializer δ String).Computes decoder := by
  intro topic headers bytes
  cases bytes with
  | none => rfl
  | some present =>
      simp only [Deserializer.text, Deserializer.ofFunction, decoder]
      cases Utf8.decode present <;> rfl

theorem decoder_undoes_encoder : decoder.Undoes encoder := by
  have undo : ∀ topic headers value,
      decoder topic headers (value.map String.toUTF8) = .ok value := by
    intro topic headers value
    cases value with
    | none => rfl
    | some text =>
        change ((Utf8.decode text.toUTF8).mapError _).map some = _
        rw [show Utf8.decode text.toUTF8 = .ok text from Utf8.decode_toByteArray text]
        rfl
  constructor
  · rintro topic headers value bytes ⟨⟩
    exact undo topic headers value
  · rintro topic headers value bytes reference ⟨⟩
    exact undo topic _ value

end Text

def PureCodec.text : PureCodec δ String where
  serializer := .text
  deserializer := .text
  encode := Text.encoder
  decode := Text.decoder
  writes := Text.computes_encoder
  reads := Text.computes_decoder
  undoes := Text.decoder_undoes_encoder

end PayloadDepot
