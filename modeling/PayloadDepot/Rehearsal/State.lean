import PayloadDepot.Rehearsal.Depot
import PayloadDepot.Rehearsal.Marks
import PayloadDepot.Rehearsal.Observer
import PayloadDepot.Storage.Catalog

/-!
# The state of a rehearsal

A rehearsal sets up depots and producers while it runs, and its state holds what
they keep.  Beside that it remembers which references were issued, in their
order, and the events since the last look at them.  Depots, codecs and probes
that are watched add their calls to the events.  The root of its files, the
address of its store and the names of its payloads follow from a number, so that
another number gives a rehearsal that shares none of them.
-/

namespace PayloadDepot

/-- What the components of a rehearsal keep, and what was noted about them. -/
structure RehearsalState where
  rootName : String
  address : String
  shelves : DepotShelves := {}
  depots : Array RehearsalDepot := #[]
  counters : Array Nat := #[]
  issued : Array String := #[]
  events : Array String := #[]

namespace RehearsalState

/-- The files that every rehearsal finds beside its root. -/
def commonFiles : FileSystem :=
  (["dev", "etc", "tmp", "usr", "var"].foldl (fun files name => files.put [name] .directory)
    FileSystem.empty).put ["dev", "null"] (.file .empty)

/-- The world in which a rehearsal begins, with an empty root. -/
def start (series : Nat) : World RehearsalState :=
  let rootName := "scratch-" ++ String.ofList (BlobName.lastDigits 6 series)
  let state : RehearsalState :=
    { rootName := rootName, address := s!"http://127.0.0.1:{10000 + series % 50000}" }
  { World.initial 1700000000000 (commonFiles.put [rootName] .directory) state with
    nameSource := BlobName.ofNumber series }

def rootPath (state : RehearsalState) : String :=
  "/" ++ state.rootName

def marks (state : RehearsalState) : Marks :=
  ⟨state.rootPath, state.address, state.issued.toList⟩

def shelvesPlace : Cell RehearsalState DepotShelves where
  read := shelves
  write shelves state := { state with shelves := shelves }

def newDepot : Allocator RehearsalState RehearsalDepot :=
  .atEnd {
    read := depots
    write := fun depots state => { state with depots := depots } }

def newCounter : Allocator RehearsalState Nat :=
  .atEnd {
    read := counters
    write := fun counters state => { state with counters := counters } }

def note (event : String) : Effect RehearsalState Unit :=
  modify fun world =>
    { world with state := { world.state with events := world.state.events.push event } }

def issue (reference : Reference) : Effect RehearsalState Unit :=
  modify fun world =>
    { world with state := { world.state with issued := world.state.issued.push reference.text } }

/-- Runs an effect and gives the events and the journal of nothing but it. -/
def collecting {α : Type} (effect : Effect RehearsalState α) :
    Effect RehearsalState (α × List String × List JournalLine) := do
  modify fun world =>
    { world with journal := #[], state := { world.state with events := #[] } }
  let result ← effect
  let world ← get
  return (result, world.state.events.toList, world.journal.toList)

end RehearsalState

variable {κ ν : Type}

/-- The depot whose calls are events under a name, and whose references are remembered. -/
def Depot.watched (name : String) (depot : Depot RehearsalState) : Depot RehearsalState :=
  depot.observed (fun call => RehearsalState.note (call.wording name)) RehearsalState.issue

/-- The serializer whose calls are events. -/
def Serializer.watched (serializer : Serializer RehearsalState ν) :
    Serializer RehearsalState ν :=
  serializer.observed fun call => RehearsalState.note (call.wording "ser" serializer.id)

/-- The deserializer whose calls are events. -/
def Deserializer.watched (deserializer : Deserializer RehearsalState ν) :
    Deserializer RehearsalState ν :=
  deserializer.observed fun call => RehearsalState.note (call.wording "de" deserializer.id)

/-- The probe that makes events under a name of what passes it. -/
def SendInterceptor.watching (name : String) : SendInterceptor RehearsalState κ ν :=
  .probe fun moment => RehearsalState.note (moment.wording name)

/-- The probe that makes events under a name of what passes it. -/
def ReceiveInterceptor.watching (name : String) : ReceiveInterceptor RehearsalState κ ν :=
  .probe fun moment => RehearsalState.note (moment.wording name)

/-- The catalog of a rehearsal, whose depots are watched under the names of their kinds; object
stores cannot be reached. -/
def DepotCatalog.watched (withStore : Bool) : DepotCatalog RehearsalState :=
  let place := RehearsalState.shelvesPlace
  let catalog := standard place
  (if withStore then catalog.withObjectStore .unreachable place else catalog).mapDepots
    fun kind => Depot.watched ("made:" ++ kind.name)

end PayloadDepot
