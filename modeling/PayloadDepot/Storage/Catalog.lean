import PayloadDepot.Host.Shelf
import PayloadDepot.Setup.Plan
import PayloadDepot.Storage.Bucket.Depot
import PayloadDepot.Storage.Directory
import PayloadDepot.Storage.Memory

/-!
# Catalogs of depots

A catalog says for each kind of depot how one is made from a plan.  A depot that
is made needs a place for what it remembers, which whoever fills the catalog
provides; a catalog can also give out one depot every time, so that several
users share what it holds.
-/

namespace PayloadDepot

/-- How a depot is made from a plan. -/
abbrev DepotMaker (δ : Type) := Plan → Action δ (Depot δ)

/-- The states of the depots of each kind that were made so far. -/
structure DepotShelves where
  memories : Array MemoryDepot := #[]
  directories : Array DirectoryDepot := #[]
  buckets : Array BucketDepot := #[]

namespace DepotShelves

variable {δ : Type}

def memory (shelves : Cell δ DepotShelves) : Allocator δ MemoryDepot :=
  .atEnd {
    read := fun state => (shelves.read state).memories
    write := fun shelf state =>
      shelves.write { shelves.read state with memories := shelf } state }

def directory (shelves : Cell δ DepotShelves) : Allocator δ DirectoryDepot :=
  .atEnd {
    read := fun state => (shelves.read state).directories
    write := fun shelf state =>
      shelves.write { shelves.read state with directories := shelf } state }

def bucket (shelves : Cell δ DepotShelves) : Allocator δ BucketDepot :=
  .atEnd {
    read := fun state => (shelves.read state).buckets
    write := fun shelf state =>
      shelves.write { shelves.read state with buckets := shelf } state }

end DepotShelves

/-- How the depots of each kind are made. -/
structure DepotCatalog (δ : Type) where
  makers : Table DepotKind (DepotMaker δ) := .empty

namespace DepotMaker

variable {δ : Type}

/-- Gives out one depot every time. -/
def always (depot : Depot δ) : DepotMaker δ :=
  fun _ => pure depot

def memory (allocate : Allocator δ MemoryDepot) : DepotMaker δ :=
  fun plan => do
    let place ← Action.lift (allocate { createsContainers := plan.createsContainers })
    return MemoryDepot.depot place

def fileSystem (allocate : Allocator δ DirectoryDepot) : DepotMaker δ :=
  fun plan => do
    let root ← Action.ofExcept (plan.options.require Keys.fileSystemRoot)
    let files ← Action.lift World.files?
    let state ← Action.ofExcept (DirectoryDepot.atRoot files root plan.createsContainers)
    let place ← Action.lift (allocate state)
    return DirectoryDepot.depot place

def objectStore (send : StoreChannel δ) (allocate : Allocator δ BucketDepot) : DepotMaker δ :=
  fun plan => do
    let settings ← Action.ofExcept (StoreSettings.ofPlan plan)
    let state ← BucketDepot.prepare settings
    let place ← Action.lift (allocate state)
    return BucketDepot.depot send place

end DepotMaker

namespace DepotCatalog

variable {δ : Type}

def empty : DepotCatalog δ := {}

def register (catalog : DepotCatalog δ) (kind : DepotKind) (make : DepotMaker δ) :
    DepotCatalog δ :=
  ⟨catalog.makers.insert kind make⟩

/-- The catalog that makes memory depots and file system depots. -/
def standard (shelves : Cell δ DepotShelves) : DepotCatalog δ :=
  (empty.register .memory (.memory (DepotShelves.memory shelves))).register .fileSystem
    (.fileSystem (DepotShelves.directory shelves))

/-- The catalog that also makes object store depots. -/
def withObjectStore (catalog : DepotCatalog δ) (send : StoreChannel δ)
    (shelves : Cell δ DepotShelves) : DepotCatalog δ :=
  catalog.register .objectStore (.objectStore send (DepotShelves.bucket shelves))

/-- The catalog whose depots are changed once they are made. -/
def mapDepots (change : DepotKind → Depot δ → Depot δ) (catalog : DepotCatalog δ) :
    DepotCatalog δ :=
  ⟨⟨catalog.makers.entries.map fun (kind, make) =>
    (kind, fun plan => do return change kind (← make plan))⟩⟩

def isRegistered (catalog : DepotCatalog δ) (kind : DepotKind) : Bool :=
  catalog.makers.contains kind

/-- Makes a depot of the kind that a plan chooses. -/
def create (catalog : DepotCatalog δ) (plan : Plan) : Action δ (Depot δ) := do
  let kind ← Action.ofExcept plan.requireDepot
  match catalog.makers.get? kind with
  | some make => make plan
  | none => Action.fail (.config (.unregisteredDepot kind))

end DepotCatalog

end PayloadDepot
