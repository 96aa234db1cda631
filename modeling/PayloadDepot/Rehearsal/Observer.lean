import PayloadDepot.Coding.Codec
import PayloadDepot.Inbound.Interceptor
import PayloadDepot.Outbound.Interceptor
import PayloadDepot.Storage.Depot

/-!
# Observers

An observed component notes every call when it arrives and then does what the
component behind it does.  A probe is an interceptor that only notes what passes
it.
-/

namespace PayloadDepot

variable {δ κ ν : Type}

inductive DepotCall where
  | checkIn (topic : String) (payload : ByteArray)
  | checkInStream (topic : String) (length : Nat)
  | checkOut (reference : Reference)
  | checkOutStream (reference : Reference)
  | close
deriving DecidableEq

def DepotCall.wording (name : String) : DepotCall → String
  | checkIn topic payload => s!"{name} check_in {topic} {payload.size}"
  | checkInStream topic length => s!"{name} check_in_streaming {topic} {length}"
  | checkOut reference => s!"{name} check_out {reference.text}"
  | checkOutStream reference => s!"{name} check_out_streaming {reference.text}"
  | close => s!"{name} close"

/-- The depot whose calls are noted, and whose references are noted when they are issued. -/
def Depot.observed (note : DepotCall → Effect δ Unit) (issued : Reference → Effect δ Unit)
    (depot : Depot δ) : Depot δ where
  name := depot.name
  checkIn topic payload := do
    Action.lift (note (.checkIn topic payload))
    let reference ← depot.checkIn topic payload
    Action.lift (issued reference)
    return reference
  checkInStream topic source length := do
    Action.lift (note (.checkInStream topic length))
    let reference ← depot.checkInStream topic source length
    Action.lift (issued reference)
    return reference
  checkOut reference := do
    Action.lift (note (.checkOut reference))
    depot.checkOut reference
  checkOutStream reference := do
    Action.lift (note (.checkOutStream reference))
    depot.checkOutStream reference
  close := do
    note .close
    depot.close

inductive CodecCall where
  | use (topic : String)
  | close
deriving DecidableEq, Repr

/-- How a call of a codec is worded, with the name of what it does. -/
def CodecCall.wording (verb id : String) : CodecCall → String
  | use topic => s!"{verb} {id} {topic}"
  | close => s!"close {verb} {id}"

/-- The serializer whose calls are noted. -/
def Serializer.observed (note : CodecCall → Effect δ Unit) (serializer : Serializer δ ν) :
    Serializer δ ν where
  id := serializer.id
  serialize topic headers value := do
    Action.lift (note (.use topic))
    serializer.serialize topic headers value
  close := do
    note .close
    serializer.close

/-- The deserializer whose calls are noted. -/
def Deserializer.observed (note : CodecCall → Effect δ Unit) (deserializer : Deserializer δ ν) :
    Deserializer δ ν where
  id := deserializer.id
  deserialize topic headers bytes := do
    Action.lift (note (.use topic))
    deserializer.deserialize topic headers bytes
  close := do
    note .close
    deserializer.close

/-- What a probe among the send interceptors sees. -/
inductive SendMoment (κ ν : Type) where
  | sending (record : ProducerRecord κ ν)
  | acknowledged (topic : String) (fault : Option Fault)
  | closed

/-- How a named probe words what it sees. -/
def SendMoment.wording (name : String) : SendMoment κ ν → String
  | sending record =>
      s!"{name} on_send {record.topic} value={record.value.isSome} " ++
        s!"headers={record.headers.size}"
  | acknowledged topic fault => s!"{name} ack {topic} error={fault.isSome}"
  | closed => s!"{name} close"

/-- What a probe among the receive interceptors sees. -/
inductive ReceiveMoment (κ ν : Type) where
  | received (batch : Batch κ ν)
  | closed

/-- How a named probe words what it sees. -/
def ReceiveMoment.wording (name : String) : ReceiveMoment κ ν → String
  | received batch => s!"{name} on_consume {batch.records.length}"
  | closed => s!"{name} close"

namespace SendInterceptor

def probe (note : SendMoment κ ν → Effect δ Unit) : SendInterceptor δ κ ν where
  onSend record := do
    Action.lift (note (.sending record))
    return record
  onAcknowledge topic fault := note (.acknowledged topic fault)
  close := note .closed

def refusing (fault : Fault) : SendInterceptor δ κ ν where
  onSend _ := Action.fail fault

def addingHeader (key : String) (value : ByteArray) : SendInterceptor δ κ ν where
  onSend record := pure (record.addHeader key value)

end SendInterceptor

namespace ReceiveInterceptor

/-- Notes what passes and leaves it as it is. -/
def probe (note : ReceiveMoment κ ν → Effect δ Unit) : ReceiveInterceptor δ κ ν where
  onReceive batch := do
    Action.lift (note (.received batch))
    return batch
  close := note .closed

def refusing (fault : Fault) : ReceiveInterceptor δ κ ν where
  onReceive _ := Action.fail fault

end ReceiveInterceptor

end PayloadDepot
