import PayloadDepot.Wire.Headers

/-!
# Records

A record before it is sent, as it is stored by the broker, and after it was
decoded again.
-/

namespace PayloadDepot

/-- A record to be sent.  Partition and timestamp are assigned when it is sent without them. -/
structure ProducerRecord (κ ν : Type) where
  topic : String
  partition : Option Int := none
  timestamp : Option Int := none
  key : Option κ := none
  value : Option ν
  headers : Headers := .empty
deriving DecidableEq

namespace ProducerRecord

variable {κ ν : Type}

def replaceValue (record : ProducerRecord κ ν) (value : Option ν) (headers : Headers) :
    ProducerRecord κ ν :=
  { record with value := value, headers := headers }

def addHeader (record : ProducerRecord κ ν) (key : String) (value : ByteArray) :
    ProducerRecord κ ν :=
  { record with headers := record.headers.add key value }

end ProducerRecord

/-- A record as the broker stores it. -/
structure WireRecord where
  topic : String
  partition : Int
  offset : Int
  timestamp : Int
  key : Option ByteArray
  value : Option ByteArray
  headers : Headers
deriving DecidableEq

/-- A record that was received and decoded. -/
structure ConsumerRecord (κ ν : Type) where
  topic : String
  partition : Int
  offset : Int
  timestamp : Int
  key : Option κ
  value : Option ν
  headers : Headers
deriving DecidableEq

/-- A stored record as it is received when nothing decodes it. -/
def WireRecord.undecoded (wire : WireRecord) : ConsumerRecord ByteArray ByteArray :=
  ⟨wire.topic, wire.partition, wire.offset, wire.timestamp, wire.key, wire.value, wire.headers⟩

/-- The stored record that is received as a given one when nothing decodes it. -/
def WireRecord.ofUndecoded (record : ConsumerRecord ByteArray ByteArray) : WireRecord :=
  ⟨record.topic, record.partition, record.offset, record.timestamp, record.key, record.value,
    record.headers⟩

@[simp]
theorem WireRecord.ofUndecoded_undecoded (wire : WireRecord) :
    ofUndecoded wire.undecoded = wire := rfl

namespace ConsumerRecord

variable {κ ν : Type}

def replaceValue (record : ConsumerRecord κ ν) (value : Option ν) : ConsumerRecord κ ν :=
  { record with value := value }

end ConsumerRecord

end PayloadDepot
