import PayloadDepot.Coding.Codec
import PayloadDepot.Json.Document
import PayloadDepot.Stream.Handle
import PayloadDepot.Wire.DeclaredLength

/-!
# The standard codecs

Bytes are passed on as they are, texts are written in UTF-8, values with a JSON
form are written as JSON, and a stream is read for exactly the length that its
record declares.  All of them turn nothing into nothing.
-/

namespace PayloadDepot

namespace Serializer

variable {δ : Type}

/-- The serializer of a function that may fail, which leaves nothing as it is. -/
def ofFunction {ν : Type} (id : String) (encode : ν → Except Fault ByteArray) :
    Serializer δ ν where
  id := id
  serialize _ _ value :=
    match value with
    | none => pure none
    | some present =>
        match encode present with
        | .ok bytes => pure (some bytes)
        | .error fault => Action.fail fault

def bytes : Serializer δ ByteArray :=
  ofFunction "bytes" .ok

def text : Serializer δ String :=
  ofFunction "string" (fun value => .ok value.toUTF8)

def json {ν : Type} [JsonForm ν] : Serializer δ ν :=
  ofFunction "json" (fun value => .ok (JsonForm.write value).toUTF8)

/-- The fault of a stream that could not be read for its declared length. -/
def streamFault (length : Nat) (fault : IoFault) : Fault :=
  if fault.kind = .unexpectedEnd then .contract (.valueShort length) else .io fault

/-- Streams for the length that their records declare. -/
def stream : Serializer δ StreamHandle where
  id := "input-stream"
  serialize _ headers value :=
    match value with
    | none => pure none
    | some source => do
        let length ← Action.ofExcept headers.declaredLength
        match ← Action.lift (source.readExactly length) with
        | .ok bytes => return some bytes
        | .error fault => Action.fail (streamFault length fault)

end Serializer

namespace Deserializer

variable {δ : Type}

/-- The deserializer of a function that may fail, which leaves nothing as it is. -/
def ofFunction {ν : Type} (id : String) (decode : ByteArray → Except Fault ν) :
    Deserializer δ ν where
  id := id
  deserialize _ _ bytes :=
    match bytes with
    | none => pure none
    | some present =>
        match decode present with
        | .ok value => pure (some value)
        | .error fault => Action.fail fault

def bytes : Deserializer δ ByteArray :=
  ofFunction "bytes" .ok

def text : Deserializer δ String :=
  ofFunction "string" fun present =>
    (Text.Utf8.decode present).mapError (fun fault => .coding (.encoding fault))

def json {ν : Type} [JsonForm ν] : Deserializer δ ν :=
  ofFunction "json" fun present =>
    (JsonForm.read present).mapError (fun fault => .coding (.json fault))

end Deserializer

namespace CodecSet

variable {δ : Type}

def forBytes : CodecSet δ ByteArray :=
  (empty.addSerializer .bytes).addDeserializer .bytes

def forTexts : CodecSet δ String :=
  (empty.addSerializer .text).addDeserializer .text

def forJson {ν : Type} [JsonForm ν] : CodecSet δ ν :=
  (empty.addSerializer .json).addDeserializer .json

/-- The codecs for streams, which are only written. -/
def forStreams : CodecSet δ StreamHandle :=
  empty.addSerializer .stream

end CodecSet

end PayloadDepot
