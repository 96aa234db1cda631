import PayloadDepot.Host.IoFault

/-!
# Readers

A reader delivers bytes in chunks and may fail between two chunks.  A single
read gives bytes of one chunk only, passes over empty chunks, and reports a
fault once; reading goes on behind it.  Reading up to a number of bytes, or up
to the end, retries after an interruption and stops at any other fault, and it
never reads further than it has to.
-/

namespace PayloadDepot

/-- One thing that a reader delivers. -/
inductive Delivery where
  | chunk (bytes : ByteArray)
  | fault (fault : IoFault)

/-- What a reader has still to deliver, in order. -/
structure Reader where
  deliveries : List Delivery

namespace Reader

def ofBytes (bytes : ByteArray) : Reader :=
  ⟨[.chunk bytes]⟩

/-- The outcome of reading several times: the bytes, the fault that stopped it, if one did, and
the reader afterwards. -/
structure Progress where
  bytes : ByteArray
  fault : Option IoFault
  rest : Reader

/-- One read into a buffer of the given size; no bytes mean that the end is reached. -/
def readOnce (size : Nat) : List Delivery → Except IoFault ByteArray × Reader
  | [] => (.ok ByteArray.empty, ⟨[]⟩)
  | .fault fault :: later => (.error fault, ⟨later⟩)
  | .chunk bytes :: later =>
      if bytes.size = 0 then readOnce size later
      else if size < bytes.size then
        (.ok (bytes.extract 0 size), ⟨.chunk (bytes.extract size bytes.size) :: later⟩)
      else (.ok bytes, ⟨later⟩)

def read (reader : Reader) (size : Nat) : Except IoFault ByteArray × Reader :=
  readOnce size reader.deliveries

/-- Reads on until some number of bytes is reached, after those already collected. -/
def takeFrom (collected : ByteArray) : (needed : Nat) → List Delivery → Progress
  | 0, deliveries => ⟨collected, none, ⟨deliveries⟩⟩
  | _ + 1, [] => ⟨collected, none, ⟨[]⟩⟩
  | needed + 1, .fault fault :: later =>
      if fault.kind = .interrupted then takeFrom collected (needed + 1) later
      else ⟨collected, some fault, ⟨later⟩⟩
  | needed + 1, .chunk bytes :: later =>
      if needed + 1 < bytes.size then
        ⟨collected ++ bytes.extract 0 (needed + 1), none,
          ⟨.chunk (bytes.extract (needed + 1) bytes.size) :: later⟩⟩
      else takeFrom (collected ++ bytes) (needed + 1 - bytes.size) later

def take (reader : Reader) (length : Nat) : Progress :=
  takeFrom ByteArray.empty length reader.deliveries

/-- Reads on up to the end, after the bytes already collected. -/
def drainFrom (collected : ByteArray) : List Delivery → Progress
  | [] => ⟨collected, none, ⟨[]⟩⟩
  | .fault fault :: later =>
      if fault.kind = .interrupted then drainFrom collected later
      else ⟨collected, some fault, ⟨later⟩⟩
  | .chunk bytes :: later => drainFrom (collected ++ bytes) later

def drain (reader : Reader) : Progress :=
  drainFrom ByteArray.empty reader.deliveries

/-- All bytes that the chunks of some deliveries hold, whatever faults stand between them. -/
def allBytes : List Delivery → ByteArray
  | [] => ByteArray.empty
  | .fault _ :: later => allBytes later
  | .chunk bytes :: later => bytes ++ allBytes later

@[simp]
theorem takeFrom_zero (collected : ByteArray) (deliveries : List Delivery) :
    takeFrom collected 0 deliveries = ⟨collected, none, ⟨deliveries⟩⟩ := by
  cases deliveries <;> rfl

@[simp]
theorem take_zero (reader : Reader) : reader.take 0 = ⟨ByteArray.empty, none, reader⟩ := by
  simp [take]

end Reader

end PayloadDepot
