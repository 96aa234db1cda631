import PayloadDepot.Storage.Bucket.ObjectStore
import PayloadDepot.Storage.Bucket.Settings
import PayloadDepot.Storage.ContainerCache
import PayloadDepot.Storage.Depot

/-!
# Object store depots

An object store depot keeps each payload as an object in the bucket of its
topic.  A bucket is checked, and created if the depot may, before anything is
sent to it, and then remembered.  A stream that is longer than a part is read
and sent part by part; if that fails, the upload is aborted.
-/

namespace PayloadDepot

/-- How requests are sent to an object store. -/
abbrev StoreChannel (δ : Type) := StoreRequest → Effect δ (Except StoreFault StoreAnswer)

namespace StoreChannel

variable {δ : Type}

/-- The channel to a store that is kept in a place. -/
def toStore (place : Cell δ ObjectStore) : StoreChannel δ :=
  fun request => place.updateGet (ObjectStore.serve request)

/-- The channel to an address that cannot be reached. -/
def unreachable : StoreChannel δ :=
  fun _ => return .error .unreachable

end StoreChannel

/-- What an object store depot remembers. -/
structure BucketDepot where
  settings : StoreSettings
  cache : ContainerCache String := .empty
  closed : Bool := false

namespace BucketDepot

variable {δ : Type}

/-- What the references of object store depots begin with. -/
def scheme : String := "s3://"

def location (bucket key : String) : String :=
  scheme ++ bucket ++ "/" ++ key

/-- Prepares a depot: static credentials are read once. -/
def prepare (settings : StoreSettings) : Action δ BucketDepot := do
  match settings.credentials with
  | .standard => pure ()
  | .fixed _ secret => do
      let _ ← secret.resolve
      pure ()
  let endpoint := settings.endpoint.getD "default"
  Action.lift (World.log .info
    s!"created S3 claim check backend: region={settings.region}, endpoint={endpoint}")
  return { settings := settings }

def cacheCell (place : Cell δ BucketDepot) : Cell δ (ContainerCache String) where
  read state := (place.read state).cache
  write cache state := place.write { place.read state with cache := cache } state

/-- The location constraint of a bucket in a region; the first region takes none. -/
def locationConstraint (region : String) : Option String :=
  if region = StoreSettings.defaultRegion then none else some region

def createBucket (send : StoreChannel δ) (region bucket : String) : Action δ Unit := do
  match ← Action.lift (send (.createBucket bucket (locationConstraint region))) with
  | .ok _ =>
      Action.lift (World.log .info s!"created claim check container: bucket={bucket}")
  | .error fault =>
      if fault = .refused "BucketAlreadyOwnedByYou" then return ()
      else Action.fail (.depotBy (.bucketNotCreated bucket) (.store fault))

/-- Checks that a bucket exists, or creates it if the depot may. -/
def ensureBucket (send : StoreChannel δ) (settings : StoreSettings) (bucket : String) :
    Action δ Unit := do
  match ← Action.lift (send (.headBucket bucket)) with
  | .ok _ => return ()
  | .error fault =>
      if fault = .refused "NotFound" then
        if settings.createsBuckets then createBucket send settings.region bucket
        else Action.fail (.depot (.containerMissing bucket))
      else Action.fail (.depotBy (.bucketNotChecked bucket) (.store fault))

/-- The bucket of a topic, checked or created once. -/
def bucket (send : StoreChannel δ) (place : Cell δ BucketDepot) (topic : String) :
    Action δ String := do
  let depot ← Action.lift place.load
  let bucket := depot.settings.bucket topic
  ContainerCache.getOrCreate (cacheCell place) topic do
    ensureBucket send depot.settings bucket
    return bucket

def putObject (send : StoreChannel δ) (bucket key : String) (body : ByteArray) :
    Action δ Unit := do
  match ← Action.lift (send (.putObject bucket key body)) with
  | .ok _ => return ()
  | .error fault =>
      Action.fail (.depotBy (.objectNotUploaded (location bucket key)) (.store fault))

/-- Reads the next part of a stream, of which some bytes were read before. -/
def readPart (source : StreamHandle) (length before : Nat) : Action δ ByteArray := do
  match ← Action.lift (source.take length) with
  | .error fault => Action.fail (.io fault)
  | .ok bytes =>
      if bytes.size = length then return bytes
      else Action.fail (.contract (.partShort (before + bytes.size)))

def uploadPart (send : StoreChannel δ) (bucket key upload : String) (number : Int32)
    (body : ByteArray) : Action δ (Option String) := do
  match ← Action.lift (send (.uploadPart bucket key upload number body)) with
  | .ok (.part tag) => return tag
  | .ok _ => return none
  | .error fault => Action.fail (.depotBy (.partNotUploaded number) (.store fault))

/-- Reads and sends the parts of a stream from some number on; `before` bytes were sent and
`remaining` ones are left.  Behind the greatest word the number goes on with the least one, as where
additions are not checked for overflow. -/
def uploadParts (send : StoreChannel δ) (bucket key upload : String) (source : StreamHandle)
    (partSize before remaining : Nat) (number : Int32) :
    Action δ (List (Int32 × Option String)) :=
  if _over : remaining = 0 ∨ partSize = 0 then pure []
  else do
    let length := min remaining partSize
    let body ← readPart source length before
    let tag ← uploadPart send bucket key upload number body
    let later ← uploadParts send bucket key upload source partSize (before + length)
      (remaining - length) (number + 1)
    return (number, tag) :: later
termination_by remaining
decreasing_by omega

def startUpload (send : StoreChannel δ) (bucket key : String) : Action δ String := do
  match ← Action.lift (send (.createUpload bucket key)) with
  | .ok (.upload (some id)) => return id
  | .ok _ => Action.fail (.depot .uploadWithoutId)
  | .error fault =>
      Action.fail (.depotBy (.uploadNotStarted (location bucket key)) (.store fault))

def completeUpload (send : StoreChannel δ) (bucket key upload : String)
    (parts : List (Int32 × Option String)) : Action δ Unit := do
  match ← Action.lift (send (.completeUpload bucket key upload parts)) with
  | .ok _ => return ()
  | .error fault =>
      Action.fail (.depotBy (.uploadNotCompleted (location bucket key)) (.store fault))

/-- Aborts an upload; that this fails is only noted. -/
def abortUpload (send : StoreChannel δ) (bucket key upload : String) : Effect δ Unit := do
  match ← send (.abortUpload bucket key upload) with
  | .ok _ => return ()
  | .error fault =>
      World.log .warn
        s!"could not abort multipart upload: bucket={bucket}, key={key}, error={fault.message}"

/-- Sends a stream as an upload of several parts. -/
def uploadStream (send : StoreChannel δ) (bucket key : String) (source : StreamHandle)
    (partSize length : Nat) : Action δ Unit := do
  let upload ← startUpload send bucket key
  let outcome ← Action.lift (Action.attempt
    (uploadParts send bucket key upload source partSize 0 length 1))
  match outcome with
  | .ok parts => completeUpload send bucket key upload parts
  | .error fault =>
      Action.lift (abortUpload send bucket key upload)
      Action.fail fault

/-- The reference to an object, whose check-in is noted. -/
def issue (topic bucket key : String) (length : Nat) : Effect δ Reference := do
  let reference := Reference.compose scheme bucket key
  Depot.logCheckedIn topic reference length
  return reference

def checkIn (send : StoreChannel δ) (place : Cell δ BucketDepot) (topic : String)
    (payload : ByteArray) : Action δ Reference := do
  let bucket ← bucket send place topic
  let key ← Action.lift World.freshName
  putObject send bucket key payload
  Action.lift (issue topic bucket key payload.size)

/-- Checks a stream in, at once if it fits into a part. -/
def checkInStream (send : StoreChannel δ) (place : Cell δ BucketDepot) (topic : String)
    (source : StreamHandle) (length : Nat) : Action δ Reference := do
  let bucket ← bucket send place topic
  let key ← Action.lift World.freshName
  let partSize := (← Action.lift place.load).settings.partSize
  if length ≤ partSize then
    let body ← readPart source length 0
    putObject send bucket key body
  else uploadStream send bucket key source partSize length
  Action.lift (issue topic bucket key length)

/-- Requests the object that a reference leads to. -/
def download (send : StoreChannel δ) (reference : Reference) : Action δ Reader := do
  let (bucket, key) ← Action.ofExcept (reference.locate scheme)
  match ← Action.lift (send (.getObject bucket key)) with
  | .ok (.object body) => return body
  | .ok _ => return ⟨[]⟩
  | .error fault =>
      if fault = .refused "NoSuchKey" then Action.fail (.depot (.claimMissing reference.text))
      else Action.fail (.depotBy (.claimNotDownloaded reference.text) (.store fault))

def checkOut (send : StoreChannel δ) (reference : Reference) : Action δ ByteArray := do
  let body ← download send reference
  match StreamHandle.outcome body.drain with
  | .ok bytes => return bytes
  | .error _ => Action.fail (.depotBy (.claimNotRead reference.text) (.store .brokenOff))

/-- Closes the depot: the first time, the cache is cleared. -/
def close (place : Cell δ BucketDepot) : Effect δ Unit := do
  let wasClosed ← place.updateGet fun depot =>
    (depot.closed,
      if depot.closed then depot else { depot with closed := true, cache := depot.cache.clear })
  if !wasClosed then Depot.logClosed "s3"

/-- The depot that sends its requests over a channel and keeps what it remembers in a place. -/
def depot (send : StoreChannel δ) (place : Cell δ BucketDepot) : Depot δ where
  name := "s3"
  checkIn := checkIn send place
  checkInStream := checkInStream send place
  checkOut := checkOut send
  checkOutStream reference := do
    let body ← download send reference
    Action.lift (StreamHandle.ofReader body)
  close := close place

end BucketDepot

end PayloadDepot
