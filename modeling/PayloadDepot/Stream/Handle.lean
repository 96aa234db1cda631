import PayloadDepot.Host.World

/-!
# Streams

A stream is a handle to a reader.  Copies of the handle share the reader and its
position, so a record that is kept aside and the one that is passed on read from
the same source.
-/

namespace PayloadDepot

structure StreamHandle where
  index : Nat
deriving DecidableEq, Repr

namespace StreamHandle

variable {δ : Type}

/-- Puts a reader under a new handle. -/
def ofReader (reader : Reader) : Effect δ StreamHandle :=
  modifyGet fun world =>
    (⟨world.readers.size⟩, { world with readers := world.readers.push reader })

def ofBytes (bytes : ByteArray) : Effect δ StreamHandle :=
  ofReader (.ofBytes bytes)

def reader (stream : StreamHandle) (world : World δ) : Reader :=
  world.readers.getD stream.index ⟨[]⟩

def setReader (stream : StreamHandle) (reader : Reader) (world : World δ) : World δ :=
  { world with readers := world.readers.setIfInBounds stream.index reader }

def read (stream : StreamHandle) (size : Nat) : Effect δ (Except IoFault ByteArray) :=
  modifyGet fun world =>
    let (outcome, rest) := (stream.reader world).read size
    (outcome, stream.setReader rest world)

/-- The bytes of several reads, or the fault that stopped them. -/
def outcome (progress : Reader.Progress) : Except IoFault ByteArray :=
  match progress.fault with
  | none => .ok progress.bytes
  | some fault => .error fault

def take (stream : StreamHandle) (length : Nat) : Effect δ (Except IoFault ByteArray) :=
  modifyGet fun world =>
    let progress := (stream.reader world).take length
    (outcome progress, stream.setReader progress.rest world)

def drain (stream : StreamHandle) : Effect δ (Except IoFault ByteArray) :=
  modifyGet fun world =>
    let progress := (stream.reader world).drain
    (outcome progress, stream.setReader progress.rest world)

/-- The fault of a stream that ended before the number of bytes asked for. -/
def endedEarly (delivered length : Nat) : IoFault :=
  { kind := .unexpectedEnd, text := s!"stream ended after {delivered} of {length} bytes" }

/-- Reads a number of bytes, neither less nor more. -/
def readExactly (stream : StreamHandle) (length : Nat) : Effect δ (Except IoFault ByteArray) :=
  do
    match ← stream.take length with
    | .error fault => return .error fault
    | .ok bytes =>
        if bytes.size = length then return .ok bytes
        else return .error (endedEarly bytes.size length)

/-- How a stream is shown inside a message; what it delivers is not looked at. -/
def shown (_stream : StreamHandle) : String :=
  "PayloadStream \x7b .. \x7d"

end StreamHandle

end PayloadDepot
