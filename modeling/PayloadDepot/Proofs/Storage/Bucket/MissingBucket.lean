import PayloadDepot.Proofs.Storage.BucketRuns
import PayloadDepot.Proofs.Storage.Declining

/-!
# Missing buckets

An object store depot checks a bucket that it does not remember before it reads
or sends anything.  That a bucket which it does remember was removed since shows
with the first request that goes there: before a stream is read if the stream
needs several parts, and behind it if one part is enough.
-/

namespace PayloadDepot

variable {δ ρ : Type}

namespace StoreChannel

/-- A request is refused as long as a view of the store shows some content, which stays. -/
def Refused (send : StoreChannel δ) (view : δ → ρ) (content : ρ) (request : StoreRequest) : Prop :=
  ∀ world : World δ, view world.state = content → ∃ fault after,
    Effect.on (send request) world = (.error fault, after) ∧ view after.state = content

/-- A store that lacks a bucket refuses to check it and to take anything into it. -/
structure Lacks (send : StoreChannel δ) (view : δ → ρ) (content : ρ) (bucket : String) : Prop where
  check : send.Refused view content (.headBucket bucket)
  put : ∀ key body, send.Refused view content (.putObject bucket key body)
  start : ∀ key, send.Refused view content (.createUpload bucket key)

/-- A view of a store shows what it delivers, and nothing that a depot remembers besides. -/
structure Viewed {σ : Type} (send : StoreChannel δ) (place : Cell δ σ) (view : δ → ρ) : Prop where
  apart : ∀ content state, view (place.write content state) = view state
  delivers : ∀ {bucket key} {world other : World δ}, view world.state = view other.state →
    (Effect.on (send (.getObject bucket key)) world).1 =
      (Effect.on (send (.getObject bucket key)) other).1

end StoreChannel

namespace ObjectStore

variable {σ : Type} {place : Cell δ ObjectStore} {content : ObjectStore} {bucket : String}

theorem refused_toStore (lawful : place.Lawful) {request : StoreRequest} {fault : StoreFault}
    (served : serve request content = (.error fault, content)) :
    (StoreChannel.toStore place).Refused place.read content request := by
  rintro world rfl
  rw [StoreChannel.toStore, Cell.on_updateGet, served]
  exact ⟨_, _, rfl, lawful _ _⟩

theorem lacks_toStore (lawful : place.Lawful) (missing : bucket ∉ content.buckets) :
    (StoreChannel.toStore place).Lacks place.read content bucket where
  check := refused_toStore lawful (by rw [serve, if_neg missing])
  put _ _ := refused_toStore lawful (by rw [serve, if_neg missing])
  start _ := refused_toStore lawful (by rw [serve, if_neg missing])

theorem viewed_toStore {other : Cell δ σ} (apart : place.Apart other) :
    (StoreChannel.toStore place).Viewed other place.read where
  apart := apart.read_left
  delivers {bucket key world another} same := by
    rw [StoreChannel.toStore, Cell.on_updateGet, Cell.on_updateGet, same]

end ObjectStore

namespace BucketDepot

variable {send : StoreChannel δ} {account : StoreAccount δ} {place : Cell δ BucketDepot}
  {settings : StoreSettings} {view : δ → ρ} {world after : World δ} {topic name : String}

def wholeContent (reference : Reference) (reader : Reader) : Except Fault ByteArray :=
  match StreamHandle.outcome reader.drain with
  | .ok bytes => .ok bytes
  | .error _ => .error (.depotBy (.claimNotRead reference.text) (.store .brokenOff))

theorem opens (send : StoreChannel δ) (place : Cell δ BucketDepot) :
    (depot send place).Opens (download send) wholeContent id where
  checkOut reference world := by
    change (Action.on (checkOut send reference) world).1 = _
    rw [checkOut, Action.on_bind]
    rcases Action.on (download send reference) world with ⟨fault | reader, opened⟩
    · rfl
    · change _ = wholeContent reference reader
      rw [wholeContent]
      dsimp only
      cases StreamHandle.outcome reader.drain <;> rfl
  checkOutStream _ := rfl

theorem download_congr (viewed : send.Viewed place view)
    (same : view after.state = view world.state) (reference : Reference) :
    (Action.on (download send reference) after).1 =
      (Action.on (download send reference) world).1 := by
  rw [download, Action.on_ofExcept_bind, Action.on_ofExcept_bind]
  rcases reference.locate scheme with fault | ⟨bucket, key⟩
  · rfl
  · dsimp only
    rw [Action.on_lift_bind, Action.on_lift_bind, viewed.delivers same]
    rcases (Effect.on (send (.getObject bucket key)) world).1 with fault | answer
    · dsimp only
      split <;> rfl
    · cases answer <;> rfl

theorem unmoved_of_view (viewed : send.Viewed place view)
    (same : view after.state = view world.state) :
    (depot send place).Unmoved (fun world => view world.state) world after where
  kept := same
  redeems reference _ := (opens send place).redeems_congr (download_congr viewed same reference)

section Refused

variable (viewed : send.Viewed place view)
  (confined : ∀ request, (send request).Leaves World.supplies)

include confined in
theorem exists_of_refused {content : ρ} {request : StoreRequest}
    (refused : send.Refused view content request) (shows : view world.state = content) :
    ∃ fault after, Effect.on (send request) world = (.error fault, after) ∧
      after.readers = world.readers ∧ view after.state = view world.state := by
  obtain ⟨fault, after, asked, shown⟩ := refused world shows
  have supplies := confined request world
  rw [asked] at supplies
  exact ⟨fault, after, asked, congrArg Prod.fst supplies, shown.trans shows.symm⟩

include viewed confined

theorem declined_putObject (world : World δ) (lacks : send.Lacks view (view world.state) name)
    (key : String) (body : ByteArray) (next : Unit → Action δ Reference) :
    (depot send place).Declined (fun world => view world.state) world
      (Action.on (putObject send name key body >>= next) world) := by
  obtain ⟨fault, after, asked, readers, shown⟩ :=
    exists_of_refused confined (lacks.put key body) rfl
  have put : Action.on (putObject send name key body) world =
      (.error (.depotBy (.objectNotUploaded (location name key)) (.store fault)), after) := by
    rw [putObject, Action.on_lift_bind, asked]
    rfl
  rw [Action.on_bind_of_error put]
  exact ⟨⟨_, rfl, rfl⟩, readers, unmoved_of_view viewed shown⟩

theorem declined_uploadStream (world : World δ)
    (lacks : send.Lacks view (view world.state) name) (key : String) (source : StreamHandle)
    (partSize length : Nat) (next : Unit → Action δ Reference) :
    (depot send place).Declined (fun world => view world.state) world
      (Action.on (uploadStream send name key source partSize length >>= next) world) := by
  obtain ⟨fault, after, asked, readers, shown⟩ := exists_of_refused confined (lacks.start key) rfl
  have started : Action.on (startUpload send name key) world =
      (.error (.depotBy (.uploadNotStarted (location name key)) (.store fault)), after) := by
    rw [startUpload, Action.on_lift_bind, asked]
    rfl
  have failed : Action.on (uploadStream send name key source partSize length) world = _ :=
    Action.on_bind_of_error started _
  rw [Action.on_bind_of_error failed]
  exact ⟨⟨_, rfl, rfl⟩, readers, unmoved_of_view viewed shown⟩

omit viewed in
/-- The check of a bucket that is missing fails for reasons of storage if it may not be created. -/
theorem exists_of_ensureBucket (creates : settings.createsBuckets = false) {content : ρ}
    (lacks : send.Lacks view content name) (shows : view world.state = content) :
    ∃ fault after, Action.on (ensureBucket send settings name) world = (.error fault, after) ∧
      fault.kind = .storage ∧ after.readers = world.readers ∧
        view after.state = view world.state := by
  obtain ⟨fault, after, asked, left⟩ := exists_of_refused confined lacks.check shows
  have checked : Action.on (ensureBucket send settings name) world = Action.on
      (Action.fail (if fault = .refused "NotFound" then .depot (.containerMissing name)
        else .depotBy (.bucketNotChecked name) (.store fault))) after := by
    rw [ensureBucket, Action.on_lift_bind, asked]
    dsimp only
    rw [creates]
    split <;> rfl
  refine ⟨_, after, checked, ?_, left⟩
  split <;> rfl

end Refused

section Slots

theorem view_slotting (viewed : send.Viewed place view) (topic : String) (world : World δ) :
    view (ContainerCache.slotting (cacheCell place) topic world).state = view world.state :=
  viewed.apart _ _

/-- A bucket that is not remembered is checked, before a stream is read or anything is sent. -/
theorem declined_of_uncached (viewed : send.Viewed place view)
    (confined : ∀ request, (send request).Leaves World.supplies) (lawful : place.Lawful)
    (configured : (place.read world.state).settings = settings)
    (creates : settings.createsBuckets = false)
    (lacks : send.Lacks view (view world.state) (settings.bucket topic))
    (uncached : (place.read world.state).cache.get? topic = none)
    (next : String → Action δ Reference) :
    (depot send place).Declined (fun world => view world.state) world
      (Action.on (bucket send place topic >>= next) world) := by
  let slotted := ContainerCache.slotting (cacheCell place) topic world
  have shows := view_slotting viewed topic world
  obtain ⟨fault, after, checked, storage, readers, shown⟩ :=
    exists_of_ensureBucket confined creates lacks shows
  have looked : Action.on (bucket send place topic) world = (.error fault, after) := by
    rw [bucket, Action.on_lift_bind, Cell.on_load]
    dsimp only
    rw [configured]
    exact ContainerCache.on_getOrCreate_of_error (lawful_cacheCell lawful) uncached
      (Action.on_bind_of_error checked _)
  rw [Action.on_bind_of_error looked]
  exact ⟨⟨fault, rfl, storage⟩, readers, unmoved_of_view viewed (shown.trans shows)⟩

theorem on_bucket_of_cached (lawful : place.Lawful) (fits : (place.read world.state).Fits settings)
    (cached : (place.read world.state).cache.get? topic = some name) :
    Action.on (bucket send place topic) world =
      (.ok (settings.bucket topic), ContainerCache.slotting (cacheCell place) topic world) := by
  rw [bucket, Action.on_lift_bind, Cell.on_load]
  dsimp only
  rw [ContainerCache.on_getOrCreate_of_some (lawful_cacheCell lawful) cached,
    fits.cache.fits cached]

end Slots

section Streams

/-- A stream that is not longer than a part is read before anything is sent. -/
theorem on_depositStream (topic : String) (source : StreamHandle) (length : Nat) (name : String)
    (world : World δ) :
    let key := world.nameSource world.namesIssued
    let named : World δ := { world with namesIssued := world.namesIssued + 1 }
    let partSize := (place.read world.state).settings.partSize
    Action.on (depositStream send place topic source length name) world =
      if length ≤ partSize then
        Action.on (readPart source length 0 >>= fun body =>
          putObject send name key body >>= fun _ => Action.lift (issue topic name key length)) named
      else
        Action.on (uploadStream send name key source partSize length >>= fun _ =>
          Action.lift (issue topic name key length)) named := by
  intro key named partSize
  rw [depositStream, Action.on_lift_bind, World.on_freshName]
  dsimp only
  rw [Action.on_lift_bind, Cell.on_load]
  dsimp only
  split <;> rfl

theorem readPart_eq_reading (source : StreamHandle) (length before : Nat) :
    (readPart source length before : Action δ ByteArray) =
      source.reading length (fun delivered => .partShort (before + delivered)) := rfl

variable (viewed : send.Viewed place view)
  (confined : ∀ request, (send request).Leaves World.supplies) {world : World δ}
  (lacks : send.Lacks view (view world.state) name)

include viewed confined lacks

theorem declined_deposit (topic : String) (payload : ByteArray) :
    (depot send place).Declined (fun world => view world.state) world
      (Action.on (deposit send topic payload name) world) :=
  (declined_putObject viewed confined { world with namesIssued := world.namesIssued + 1 } lacks _
    payload _).of_start rfl (unmoved_of_view viewed rfl)

/-- For a stream that needs several parts an upload has to be started before it is read. -/
theorem declined_depositStream (topic : String) (source : StreamHandle) {length : Nat}
    (parts : ¬ length ≤ (place.read world.state).settings.partSize) :
    (depot send place).Declined (fun world => view world.state) world
      (Action.on (depositStream send place topic source length name) world) := by
  rw [on_depositStream, if_neg parts]
  exact (declined_uploadStream viewed confined { world with namesIssued := world.namesIssued + 1 }
    lacks _ source _ length _).of_start rfl (unmoved_of_view viewed rfl)

theorem declinedOnceRead_depositStream (topic : String) (source : StreamHandle) {length : Nat}
    (part : length ≤ (place.read world.state).settings.partSize) :
    (depot send place).DeclinedOnceRead (fun world => view world.state) source length world
      (Action.on (depositStream send place topic source length name) world) := by
  let named : World δ := { world with namesIssued := world.namesIssued + 1 }
  have declined (key : String) (next : Unit → Action δ Reference) :
      (depot send place).DeclinedOnceRead (fun world => view world.state) source length named
        (Action.on (readPart source length 0 >>= fun body =>
          putObject send name key body >>= next) named) := by
    rw [readPart_eq_reading]
    exact Depot.declinedOnceRead_of_reading _ (fun _ => unmoved_of_view viewed rfl)
      fun body readers =>
        declined_putObject viewed confined (named.withReaders readers) lacks key body next
  rw [on_depositStream, if_pos part]
  exact (declined _ _).of_start rfl (unmoved_of_view viewed rfl)

end Streams

theorem declines (viewed : send.Viewed place view)
    (confined : ∀ request, (send request).Leaves World.supplies) (lawful : place.Lawful)
    (fits : (place.read world.state).Fits settings) (creates : settings.createsBuckets = false)
    (lacks : send.Lacks view (view world.state) (settings.bucket topic)) :
    (depot send place).Declines (fun world => view world.state)
      (fun length => (place.read world.state).cache.get? topic ≠ none ∧
        length ≤ settings.partSize) topic world := by
  cases cached : (place.read world.state).cache.get? topic with
  | none =>
      have declined := declined_of_uncached viewed confined lawful fits.configured creates lacks
        cached
      exact ⟨fun payload => declined (deposit send topic payload),
        fun source length _ => declined (depositStream send place topic source length),
        fun _ _ remembered => absurd rfl remembered.1⟩
  | some name =>
      let slotted := ContainerCache.slotting (cacheCell place) topic world
      have shows := view_slotting viewed topic world
      have unmoved : (depot send place).Unmoved (fun world => view world.state) world slotted :=
        unmoved_of_view viewed shows
      have partSize : (place.read slotted.state).settings.partSize = settings.partSize := by
        rw [show place.read slotted.state = _ from read_write_cacheCell lawful _ _,
          fits.configured]
      have lacks : send.Lacks view (view slotted.state) (settings.bucket topic) := by
        rw [shows]
        exact lacks
      have entered (next : String → Action δ Reference) :
          Action.on (bucket send place topic >>= next) world =
            Action.on (next (settings.bucket topic)) slotted :=
        Action.on_bind_of_ok (on_bucket_of_cached lawful fits cached) next
      refine ⟨fun payload => ?_, fun source length parts => ?_, fun source length part => ?_⟩
      · have declined := declined_deposit viewed confined lacks topic payload
        rw [← entered] at declined
        exact declined.of_start rfl unmoved
      · have declined := declined_depositStream viewed confined lacks topic source
          (partSize ▸ fun fits => parts ⟨Option.some_ne_none _, fits⟩)
        rw [← entered] at declined
        exact declined.of_start rfl unmoved
      · have declined := declinedOnceRead_depositStream viewed confined lacks topic source
          (partSize ▸ part.2)
        rw [← entered] at declined
        exact declined.of_start rfl unmoved

end BucketDepot

end PayloadDepot
