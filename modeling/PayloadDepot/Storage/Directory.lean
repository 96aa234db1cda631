import PayloadDepot.Storage.ContainerCache
import PayloadDepot.Storage.Depot

/-!
# File system depots

A file system depot keeps each payload in a file, and the files of a topic in a
directory below its root.  The names of containers and of payloads have to be
single components of a path, so nothing outside of the root is ever touched.  A
file whose writing fails is removed again.
-/

namespace PayloadDepot

/-- What a file system depot remembers besides the files. -/
structure DirectoryDepot where
  root : String
  cache : ContainerCache String := .empty
  createsContainers : Bool := false
  closed : Bool := false

namespace DirectoryDepot

variable {δ : Type}

def scheme : String := "file://"

/-- Whether a name is a single component of a path. -/
def isSegment (name : String) : Bool :=
  name ≠ "" && name ≠ "." && name ≠ ".." &&
    name.toList.all (fun character =>
      character ≠ '/' && character ≠ '\\' && character ≠ Char.ofNat 0)

/-- A depot over a directory that exists. -/
def atRoot (files : FileSystem) (root : String) (createsContainers : Bool) :
    Except Fault DirectoryDepot :=
  if files.isDirectory root then .ok { root := root, createsContainers := createsContainers }
  else .error (.config (.rootNotDirectory root))

def cacheCell (place : Cell δ DirectoryDepot) : Cell δ (ContainerCache String) where
  read state := (place.read state).cache
  write cache state := place.write { place.read state with cache := cache } state

/-- Finds the directory of a topic, or creates it if the depot may. -/
def findContainer (place : Cell δ DirectoryDepot) (topic : String) : Action δ String := do
  let depot ← Action.lift place.load
  let path := FileSystem.joinPath depot.root topic
  if (← Action.lift World.files?).isDirectory path then return path
  if !depot.createsContainers then Action.fail (.depot (.containerMissing topic))
  match ← Action.lift (World.onFiles (·.makeDirectories path)) with
  | .error fault => Action.fail (.depotBy (.containerNotCreated topic) (.io fault))
  | .ok () =>
      Action.lift (World.log .info
        s!"created claim check container: topic={topic}, path={path}")
      return path

/-- The directory of a topic, from the cache if it is there. -/
def container (place : Cell δ DirectoryDepot) (topic : String) : Action δ String := do
  if !isSegment topic then Action.fail (.contract (.containerName topic))
  ContainerCache.getOrCreate (cacheCell place) topic (findContainer place topic)

/-- Writes and flushes the content of a file that was just made. -/
def writeContent (names : FilePath) (content : Action δ ByteArray) : Action δ Nat := do
  let bytes ← content
  match ← Action.lift (World.onFiles (·.writeFile names bytes)) with
  | .error fault => Action.fail (.io fault)
  | .ok () =>
      match ← Action.lift (World.onFiles (·.flushFile)) with
      | .error fault => Action.fail (.io fault)
      | .ok () => return bytes.size

/-- Checks the content in that an action provides once a file was made for it; when the action or
the writing fails, the file is removed. -/
def checkInContent (place : Cell δ DirectoryDepot) (topic : String)
    (content : Action δ ByteArray) : Action δ Reference := do
  let directory ← container place topic
  let name ← Action.lift World.freshName
  let path := FileSystem.joinPath directory name
  match ← Action.lift (World.onFiles (·.createFile path)) with
  | .error fault => Action.fail (.depotBy (.blobNotCreated path) (.io fault))
  | .ok names =>
      match ← Action.lift (Action.attempt (writeContent names content)) with
      | .error fault =>
          Action.lift (World.onFiles (fun files => ((), files.drop names)))
          Action.fail fault
      | .ok length =>
          let reference := Reference.compose scheme topic name
          Action.lift (Depot.logCheckedIn topic reference length)
          return reference

/-- The path of the file that a reference leads to. -/
def blobPath (depot : DirectoryDepot) (reference : Reference) : Except Fault String := do
  let (topic, name) ← reference.locate scheme
  if isSegment topic && isSegment name then
    .ok (FileSystem.joinPath (FileSystem.joinPath depot.root topic) name)
  else .error (.badReference reference.text)

def openBlob (place : Cell δ DirectoryDepot) (reference : Reference) : Action δ FileEntry := do
  let depot ← Action.lift place.load
  let path ← Action.ofExcept (depot.blobPath reference)
  match (← Action.lift World.files?).find path with
  | .ok entry => return entry
  | .error fault =>
      if fault.kind = .notFound then Action.fail (.depot (.claimMissing reference.text))
      else Action.fail (.depotBy (.blobNotOpened path) (.io fault))

/-- What is read from an open file. -/
def contentReader : FileEntry → Reader
  | .file content => .ofBytes content
  | .directory => ⟨[.fault .isADirectory]⟩

def checkOut (place : Cell δ DirectoryDepot) (reference : Reference) : Action δ ByteArray := do
  match ← openBlob place reference with
  | .file content => return content
  | .directory => Action.fail (.io .isADirectory)

def close (place : Cell δ DirectoryDepot) : Effect δ Unit := do
  let wasClosed ← place.updateGet fun depot =>
    (depot.closed,
      if depot.closed then depot else { depot with closed := true, cache := depot.cache.clear })
  if !wasClosed then Depot.logClosed "filesystem"

def depot (place : Cell δ DirectoryDepot) : Depot δ where
  name := "filesystem"
  checkIn topic payload := checkInContent place topic (pure payload)
  checkInStream topic source length :=
    checkInContent place topic (Depot.readDeclared source length)
  checkOut := checkOut place
  checkOutStream reference := do
    let entry ← openBlob place reference
    Action.lift (StreamHandle.ofReader (contentReader entry))
  close := close place

end DirectoryDepot

end PayloadDepot
