import PayloadDepot.Host.World
import PayloadDepot.Table
import PayloadDepot.Wire.Headers

/-!
# Codecs

A serializer turns a value of a record into bytes, a deserializer turns bytes
into a value; both see the record's topic and headers, and both may be given
nothing and may give nothing.  A codec set finds them by their identifiers.
-/

namespace PayloadDepot

/-- Turns values into bytes. -/
structure Serializer (δ ν : Type) where
  id : String
  serialize : String → Headers → Option ν → Action δ (Option ByteArray)
  close : Effect δ Unit := pure ()

/-- Turns bytes into values. -/
structure Deserializer (δ ν : Type) where
  id : String
  deserialize : String → Headers → Option ByteArray → Action δ (Option ν)
  close : Effect δ Unit := pure ()

/-- Serializers and deserializers for values of one type, by their identifiers. -/
structure CodecSet (δ ν : Type) where
  serializers : Table String (Serializer δ ν) := .empty
  deserializers : Table String (Deserializer δ ν) := .empty

namespace CodecSet

variable {δ ν : Type}

def empty : CodecSet δ ν := {}

/-- The set with a serializer in place of any other one with its identifier. -/
def addSerializer (codecs : CodecSet δ ν) (serializer : Serializer δ ν) : CodecSet δ ν :=
  { codecs with serializers := codecs.serializers.insert serializer.id serializer }

def addDeserializer (codecs : CodecSet δ ν) (deserializer : Deserializer δ ν) : CodecSet δ ν :=
  { codecs with deserializers := codecs.deserializers.insert deserializer.id deserializer }

def serializer (codecs : CodecSet δ ν) (id : String) : Except Fault (Serializer δ ν) :=
  match codecs.serializers.get? id with
  | some found => .ok found
  | none => .error (.config (.unknownSerializer id))

def deserializer (codecs : CodecSet δ ν) (id : String) : Except Fault (Deserializer δ ν) :=
  match codecs.deserializers.get? id with
  | some found => .ok found
  | none => .error (.config (.unknownDeserializer id))

/-- The identifiers of the serializers in ascending order. -/
def serializerIds (codecs : CodecSet δ ν) : List String :=
  codecs.serializers.sortedKeys

end CodecSet

end PayloadDepot
