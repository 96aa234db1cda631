import PayloadDepot.Storage.ContainerCache
import PayloadDepot.Storage.Depot

/-!
# Memory depots

A memory depot keeps its payloads in containers of its own.  A container has an
identity apart from its topic: the table of containers says which one a topic
has, the cache remembers it for the callers, and a payload goes into the
container that its caller found.  Every change is one of a few steps, each of
which looks at and changes one of these parts.
-/

namespace PayloadDepot

/-- What a memory depot holds. -/
structure MemoryDepot where
  cache : ContainerCache Nat := .empty
  containers : Table String Nat := .empty
  blobs : Array (Table String ByteArray) := #[]
  creations : Table String Nat := .empty
  createsContainers : Bool := false
  closed : Bool := false

namespace MemoryDepot

variable {δ : Type}

def scheme : String := "memory://"

def container? (depot : MemoryDepot) (topic : String) : Option Nat :=
  depot.containers.get? topic

/-- The container of a topic, which is a new one if the topic has none; tells whether it is. -/
def create (depot : MemoryDepot) (topic : String) : (Nat × Bool) × MemoryDepot :=
  match depot.container? topic with
  | some container => ((container, false), depot)
  | none =>
      let container := depot.blobs.size
      ((container, true),
        { depot with
          containers := depot.containers.insert topic container
          blobs := depot.blobs.push .empty
          creations := depot.creations.insert topic ((depot.creations.get? topic).getD 0 + 1) })

def insert (depot : MemoryDepot) (container : Nat) (name : String) (payload : ByteArray) :
    MemoryDepot :=
  { depot with blobs := depot.blobs.modify container (·.insert name payload) }

def payload? (depot : MemoryDepot) (container : Nat) (name : String) : Option ByteArray :=
  (depot.blobs[container]?).bind (·.get? name)

def creationCount (depot : MemoryDepot) (topic : String) : Nat :=
  (depot.creations.get? topic).getD 0

def storedCount (depot : MemoryDepot) (topic : String) : Nat :=
  match depot.container? topic with
  | some container => ((depot.blobs[container]?).map (·.entries.length)).getD 0
  | none => 0

def cacheCell (place : Cell δ MemoryDepot) : Cell δ (ContainerCache Nat) where
  read state := (place.read state).cache
  write cache state := place.write { place.read state with cache := cache } state

def createContainer (place : Cell δ MemoryDepot) (topic : String) : Effect δ Nat := do
  let (container, isNew) ← place.updateGet (fun depot => depot.create topic)
  if isNew then World.log .info s!"created claim check container: topic={topic}"
  return container

/-- Finds the container of a topic, or creates it if the depot may. -/
def findContainer (place : Cell δ MemoryDepot) (topic : String) : Action δ Nat := do
  let depot ← Action.lift place.load
  match depot.container? topic with
  | some container => return container
  | none =>
      if depot.createsContainers then Action.lift (createContainer place topic)
      else Action.fail (.depot (.containerMissing topic))

/-- The container of a topic, from the cache if it is there. -/
def container (place : Cell δ MemoryDepot) (topic : String) : Action δ Nat :=
  ContainerCache.getOrCreate (cacheCell place) topic (findContainer place topic)

def checkIn (place : Cell δ MemoryDepot) (topic : String) (payload : ByteArray) :
    Action δ Reference := do
  let container ← container place topic
  let name ← Action.lift World.freshName
  Action.lift (place.update (fun depot => depot.insert container name payload))
  let reference := Reference.compose scheme topic name
  Action.lift (Depot.logCheckedIn topic reference payload.size)
  return reference

/-- Checks a stream in; it is read for its declared length before anything else. -/
def checkInStream (place : Cell δ MemoryDepot) (topic : String) (source : StreamHandle)
    (length : Nat) : Action δ Reference := do
  let payload ← Depot.readDeclared source length
  checkIn place topic payload

/-- The payload that a reference leads to. -/
def find (depot : MemoryDepot) (reference : Reference) : Except Fault ByteArray := do
  let (topic, name) ← reference.locate scheme
  match depot.container? topic with
  | none => .error (.depot (.containerMissing topic))
  | some container =>
      match depot.payload? container name with
      | some payload => .ok payload
      | none => .error (.depot (.claimMissing reference.text))

def checkOut (place : Cell δ MemoryDepot) (reference : Reference) : Action δ ByteArray := do
  let depot ← Action.lift place.load
  Action.ofExcept (depot.find reference)

/-- Closes the depot: the first time, the cache is cleared. -/
def close (place : Cell δ MemoryDepot) : Effect δ Unit := do
  let wasClosed ← place.updateGet fun depot =>
    (depot.closed,
      if depot.closed then depot else { depot with closed := true, cache := depot.cache.clear })
  if !wasClosed then Depot.logClosed "memory"

def depot (place : Cell δ MemoryDepot) : Depot δ where
  name := "memory"
  checkIn := checkIn place
  checkInStream := checkInStream place
  checkOut := checkOut place
  checkOutStream reference := do
    let payload ← checkOut place reference
    Action.lift (StreamHandle.ofBytes payload)
  close := close place

end MemoryDepot

end PayloadDepot
