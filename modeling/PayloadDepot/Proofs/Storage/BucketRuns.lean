import PayloadDepot.Proofs.Host.BlobName
import PayloadDepot.Proofs.Storage.Bucket.Name
import PayloadDepot.Proofs.Storage.Bucket.Uploads
import PayloadDepot.Proofs.Storage.ContainerCache

/-!
# Runs of object store depots

The cache of an object store depot has no bucket for a topic but the one that
its settings name after it.  So an object is requested from the very bucket in
which it was put, whatever calls came before, if the store can be relied on.
-/

namespace PayloadDepot

/-- A view of the world that stays the same when streams are read, lines are noted and names are
issued. -/
structure World.Steady {δ ρ : Type} (observe : World δ → ρ) : Prop where
  takes : ∀ (source : StreamHandle) length, Effect.Leaves observe (source.take length)
  notes : ∀ level text, Effect.Leaves observe (World.log level text)
  names : Effect.Leaves observe World.freshName

theorem Cell.steady_held {δ σ : Type} (place : Cell δ σ) : World.Steady place.held where
  takes _ _ _ := rfl
  notes _ _ _ := rfl
  names _ := rfl

namespace BucketDepot

variable {δ : Type} {send : StoreChannel δ} {account : StoreAccount δ}
  {place : Cell δ BucketDepot} {settings : StoreSettings} {world after : World δ}
  {topic : String}

/-- A depot with settings, whose cache has the buckets that are named after topics. -/
structure Fits (depot : BucketDepot) (settings : StoreSettings) : Prop where
  configured : depot.settings = settings
  cache : depot.cache.Fits settings.bucket

theorem fits_initial (settings : StoreSettings) : Fits { settings := settings } settings where
  configured := rfl
  cache := ContainerCache.fits_empty _

section Frame

variable (confined : ∀ request, (send request).Leaves World.supplies) (spares : send.Spares place)

include confined spares

/-- What lies in the place of the depot and what supplies the world provides. -/
theorem leaves_send (request : StoreRequest) :
    (send request).Leaves fun world => (place.read world.state, world.supplies) :=
  fun world => Prod.ext (spares request world) (confined request world)

theorem leaves_held (request : StoreRequest) : (send request).Leaves place.held := by
  intro world
  have named := congrArg Prod.snd (confined request world)
  exact Prod.ext (spares request world) named

end Frame

section Verification

variable {ρ : Type} {observe : World δ → ρ} (sends : ∀ request, (send request).Leaves observe)
  (notes : ∀ level text, Effect.Leaves observe (World.log level text))

include sends notes

theorem leaves_ensureBucket (settings : StoreSettings) (bucket : String) :
    (ensureBucket send settings bucket).Leaves observe := by
  refine .bind (.lift (sends _)) fun answer => ?_
  cases answer with
  | ok answer => exact .pure _
  | error fault =>
      dsimp only
      split
      · split
        · refine .bind (.lift (sends _)) fun answer => ?_
          cases answer with
          | ok answer => exact .lift (notes _ _)
          | error fault =>
              dsimp only
              split
              · exact .pure _
              · exact .fail _
        · exact .fail _
      · exact .fail _

/-- What shows nothing of the cache is left alone by all that is done for a bucket. -/
theorem leaves_bucket (caches : ∀ cache (world : World δ),
      observe (world.withState ((cacheCell place).write cache world.state)) = observe world)
    (topic : String) : (bucket send place topic).Leaves observe := by
  refine .bind (.lift fun _ => rfl) fun depot => .bind (.lift fun world => caches _ world)
    fun index => .bind (.lift fun _ => rfl) fun cache => ?_
  split
  · exact .pure _
  · exact .bind (.bind (leaves_ensureBucket sends notes _ _) fun _ => .pure _)
      fun name => .bind (.lift fun world => caches _ world) fun _ => .pure _

end Verification

section Containers

theorem lawful_cacheCell (lawful : place.Lawful) : (cacheCell place).Lawful := by
  intro cache state
  simp [cacheCell, lawful _ state]

theorem read_write_cacheCell (lawful : place.Lawful) (cache : ContainerCache String) (state : δ) :
    place.read ((cacheCell place).write cache state) =
      { place.read state with cache := cache } :=
  lawful _ state

/-- Looking a bucket up keeps the cache fitting and changes no supply of the world; it gives the
bucket that is named after the topic. -/
theorem on_bucket (reliable : send.Reliable account) (spares : send.Spares place)
    (lawful : place.Lawful) (fits : (place.read world.state).Fits settings) (topic : String) :
    (place.read (Action.on (bucket send place topic) world).2.state).Fits settings ∧
      (Action.on (bucket send place topic) world).2.supplies = world.supplies ∧
        ∀ {name}, (Action.on (bucket send place topic) world).1 = .ok name →
          name = settings.bucket topic := by
  obtain ⟨configured, cacheFits⟩ := fits
  rw [bucket, Action.on_lift_bind, Cell.on_load]
  dsimp only
  rw [configured]
  let kept (world : World δ) := ((place.read world.state).settings, world.supplies)
  let create : Action δ String := do
    ensureBucket send settings (settings.bucket topic)
    return settings.bucket topic
  have leaves : create.Leaves fun world => (place.read world.state, world.supplies) :=
    .bind (leaves_ensureBucket (leaves_send reliable.confined spares) (fun _ _ _ => rfl) _ _)
      fun _ => .pure _
  have makes : ContainerCache.Makes (cacheCell place) kept (settings.bucket topic) create
      (ContainerCache.slotting (cacheCell place) topic world) := by
    refine ⟨leaves.map (fun left => left.1.cache) _,
      leaves.map (fun left => (left.1.settings, left.2)) _, fun {name} made => ?_⟩
    simp only [create, Action.on_bind] at made
    split at made
    · rw [Action.on_pure] at made
      exact (Except.ok.inj made).symm
    · cases made
  have apart : ∀ cache (world : World δ),
      kept (world.withState ((cacheCell place).write cache world.state)) = kept world := by
    intro cache world
    simp only [kept, World.withState_state, read_write_cacheCell lawful]
    rfl
  obtain ⟨cacheFits, keptToo, given⟩ :=
    cacheFits.getOrCreate (lawful_cacheCell lawful) makes apart
  exact ⟨⟨(congrArg Prod.fst keptToo).trans configured, cacheFits⟩,
    congrArg Prod.snd keptToo, given⟩

end Containers

section CheckIns

variable {payload : ByteArray} {reference : Reference} {source : StreamHandle} {length : Nat}

/-- What is known of a check-in that gave a reference. -/
structure Kept (account : StoreAccount δ) (settings : StoreSettings) (topic : String)
    (payload : ByteArray) (world : World δ) (reference : Reference) (after : World δ) : Prop where
  stored : ∃ number,
    reference = .compose scheme (settings.bucket topic) (world.nameSource number) ∧
      account.object after.state (settings.bucket topic) (world.nameSource number) = some payload

theorem kept_of_checkIn (reliable : send.Reliable account) (spares : send.Spares place)
    (lawful : place.Lawful) (fits : (place.read world.state).Fits settings)
    (issued : Action.on (checkIn send place topic payload) world = (.ok reference, after)) :
    Kept account settings topic payload world reference after := by
  obtain ⟨-, supplies, given⟩ := on_bucket reliable spares lawful fits topic
  rw [checkIn] at issued
  rcases ran : Action.on (bucket send place topic) world with ⟨fault | bucket, middle⟩
  · rw [Action.on_bind_of_error ran] at issued
    cases issued
  rw [ran] at supplies given
  have named : middle.nameSource = world.nameSource := congrArg Prod.snd supplies
  rw [Action.on_bind_of_ok ran, Action.on_lift_bind, World.on_freshName] at issued
  dsimp only at issued
  rcases puts : Action.on (putObject send bucket (middle.nameSource middle.namesIssued) payload)
    { middle with namesIssued := middle.namesIssued + 1 } with ⟨fault | ⟨⟩, last⟩
  · rw [Action.on_bind_of_error puts] at issued
    cases issued
  rw [Action.on_bind_of_ok puts] at issued
  cases issued
  obtain ⟨answer, put⟩ := of_putObject_ok puts
  have stored := reliable.object_put put
  refine ⟨middle.namesIssued, ?_⟩
  rw [← given rfl, ← named]
  exact ⟨rfl, stored⟩

theorem kept_of_checkInStream (reliable : send.Reliable account) (spares : send.Spares place)
    (lawful : place.Lawful) (fits : (place.read world.state).Fits settings)
    (positive : 0 < settings.partSize)
    (issued : Action.on (checkInStream send place topic source length) world =
      (.ok reference, after)) :
    ∃ payload, source.Delivers length world payload ∧
      Kept account settings topic payload world reference after := by
  obtain ⟨fitsToo, supplies, given⟩ := on_bucket reliable spares lawful fits topic
  rw [checkInStream] at issued
  rcases ran : Action.on (bucket send place topic) world with ⟨fault | bucket, middle⟩
  · rw [Action.on_bind_of_error ran] at issued
    cases issued
  rw [ran] at fitsToo supplies given
  have named : middle.nameSource = world.nameSource := congrArg Prod.snd supplies
  rw [Action.on_bind_of_ok ran, Action.on_lift_bind, World.on_freshName] at issued
  dsimp only at issued
  rw [Action.on_lift_bind, Cell.on_load] at issued
  dsimp only at issued
  let key := middle.nameSource middle.namesIssued
  let before : World δ := { middle with namesIssued := middle.namesIssued + 1 }
  have available : source.available before = source.available world :=
    StreamHandle.available_congr (congrArg Prod.fst supplies)
  -- Whatever way the stream was sent, its bytes are under the key that the reference tells.
  have kept {payload : ByteArray} {last : World δ}
      (delivers : source.Delivers length before payload)
      (stored : account.object last.state bucket key = some payload) :
      ∃ payload, source.Delivers length world payload ∧
        Kept account settings topic payload world (.compose scheme bucket key) last := by
    refine ⟨payload, ⟨available ▸ delivers.bytes, delivers.size⟩, middle.namesIssued, ?_⟩
    rw [← given rfl, ← named]
    exact ⟨rfl, stored⟩
  split at issued
  · rcases reads : Action.on (readPart source length 0) before with ⟨fault | body, between⟩
    · rw [Action.on_bind_of_error reads] at issued
      cases issued
    rw [Action.on_bind_of_ok reads] at issued
    rcases puts : Action.on (putObject send bucket key body) between with ⟨fault | ⟨⟩, last⟩
    · rw [Action.on_bind_of_error puts] at issued
      cases issued
    rw [Action.on_bind_of_ok puts] at issued
    cases issued
    obtain ⟨answer, put⟩ := of_putObject_ok puts
    have stored := reliable.object_put put
    exact kept (of_readPart_ok reads).1 stored
  · rw [fitsToo.configured] at issued
    rcases sends : Action.on (uploadStream send bucket key source settings.partSize length) before
      with ⟨fault | ⟨⟩, last⟩
    · rw [Action.on_bind_of_error sends] at issued
      cases issued
    rw [Action.on_bind_of_ok sends] at issued
    cases issued
    obtain ⟨body, delivers, stored⟩ := of_uploadStream_ok reliable positive sends
    exact kept delivers stored

/-- An object is handed out under the reference to it. -/
theorem redeems_of_object (reliable : send.Reliable account) {bucket key : String}
    (bucketOk : Text.IsComponent bucket) (keyOk : Text.IsComponent key)
    (held : account.object world.state bucket key = some payload) :
    (depot send place).Redeems (.compose scheme bucket key) payload world := by
  obtain ⟨reader, got, drained⟩ := reliable.object_got held
  let after := (Effect.on (send (.getObject bucket key)) world).2
  have served : Action.on (download send (.compose scheme bucket key)) world =
      (.ok reader, after) := by
    rw [download, Action.on_ofExcept_bind, Reference.locate_compose scheme bucketOk keyOk]
    dsimp only
    rw [Action.on_lift_bind, got]
    rfl
  refine ⟨?_, _, _, Action.on_bind_of_ok served _, ?_⟩
  · change (Action.on (checkOut send (.compose scheme bucket key)) world).1 = _
    rw [checkOut, Action.on_bind_of_ok served, drained]
    rfl
  · exact (StreamHandle.on_drain_ofReader reader after).trans drained

theorem Kept.redeems (kept : Kept account settings topic payload world reference after)
    (reliable : send.Reliable account)
    (identifiers : ∀ number, BlobName.IsIdentifier (world.nameSource number)) :
    (depot send place).Redeems reference payload after := by
  obtain ⟨number, rfl, stored⟩ := kept.stored
  exact redeems_of_object reliable (BucketName.isComponent_ofTopic _ _)
    (identifiers number).isComponent stored

end CheckIns

section Runs

variable {names : Nat → String}

theorem redeemsIssued_of_stands (reliable : send.Reliable account) (spares : send.Spares place)
    (lawful : place.Lawful) (positive : 0 < settings.partSize)
    (stands : place.Stands (Fits · settings) names world)
    (identifiers : ∀ number, BlobName.IsIdentifier (names number)) (topic : String) :
    (depot send place).RedeemsIssued topic world where
  checkIn issued :=
    (kept_of_checkIn reliable spares lawful stands.fits issued).redeems reliable
      (stands.named ▸ identifiers)
  checkInStream issued := by
    obtain ⟨payload, delivers, kept⟩ :=
      kept_of_checkInStream reliable spares lawful stands.fits positive issued
    exact ⟨payload, delivers, kept.redeems reliable (stands.named ▸ identifiers)⟩

section Deposits

/-- What a check-in does once it has a bucket. -/
def deposit (send : StoreChannel δ) (topic : String) (payload : ByteArray) (bucket : String) :
    Action δ Reference := do
  let key ← Action.lift World.freshName
  putObject send bucket key payload
  Action.lift (issue topic bucket key payload.size)

/-- What the check-in of a stream does once it has a bucket. -/
def depositStream (send : StoreChannel δ) (place : Cell δ BucketDepot) (topic : String)
    (source : StreamHandle) (length : Nat) (bucket : String) : Action δ Reference := do
  let key ← Action.lift World.freshName
  let partSize := (← Action.lift place.load).settings.partSize
  if length ≤ partSize then
    let body ← readPart source length 0
    putObject send bucket key body
  else uploadStream send bucket key source partSize length
  Action.lift (issue topic bucket key length)

theorem checkIn_eq (topic : String) (payload : ByteArray) :
    checkIn send place topic payload = bucket send place topic >>= deposit send topic payload :=
  rfl

theorem checkInStream_eq (topic : String) (source : StreamHandle) (length : Nat) :
    checkInStream send place topic source length =
      bucket send place topic >>= depositStream send place topic source length :=
  rfl

end Deposits

section Requests

variable {ρ : Type} {observe : World δ → ρ} (sends : ∀ request, (send request).Leaves observe)

include sends

theorem leaves_putObject (bucket key : String) (body : ByteArray) :
    (putObject send bucket key body).Leaves observe := by
  refine .bind (.lift (sends _)) fun answer => ?_
  cases answer with
  | ok answer => exact .pure _
  | error fault => exact .fail _

theorem leaves_uploadPart (bucket key id : String) (number : Int32) (body : ByteArray) :
    (uploadPart send bucket key id number body).Leaves observe := by
  refine .bind (.lift (sends _)) fun answer => ?_
  cases answer with
  | error fault => exact .fail _
  | ok answer =>
      cases answer with
      | part _ | done | upload _ | object _ => exact .pure _

theorem leaves_startUpload (bucket key : String) :
    (startUpload send bucket key).Leaves observe := by
  refine .bind (.lift (sends _)) fun answer => ?_
  cases answer with
  | error fault => exact .fail _
  | ok answer =>
      cases answer with
      | done | part _ | object _ => exact .fail _
      | upload given =>
          cases given with
          | none => exact .fail _
          | some id => exact .pure id

theorem leaves_completeUpload (bucket key id : String)
    (parts : List (Int32 × Option String)) :
    (completeUpload send bucket key id parts).Leaves observe := by
  refine .bind (.lift (sends _)) fun answer => ?_
  cases answer with
  | ok answer => exact .pure _
  | error fault => exact .fail _

end Requests

section Leaves

variable {ρ : Type} {observe : World δ → ρ} (steady : World.Steady observe)
  (sends : ∀ request, (send request).Leaves observe)

include steady sends

omit sends in
theorem leaves_readPart (source : StreamHandle) (length before : Nat) :
    (readPart source length before).Leaves observe := by
  refine .bind (.lift (steady.takes _ _)) fun taken => ?_
  cases taken with
  | error fault => exact .fail _
  | ok bytes =>
      dsimp only
      split
      · exact .pure _
      · exact .fail _

theorem leaves_uploadParts (bucket key id : String) (source : StreamHandle)
    (partSize before remaining : Nat) (number : Int32) :
    (uploadParts send bucket key id source partSize before remaining number).Leaves observe := by
  induction remaining using Nat.strong_induction_on generalizing before number with
  | h remaining inductionHypothesis =>
    rw [uploadParts]
    split
    · exact .pure _
    · exact .bind (leaves_readPart steady source _ _) fun body =>
        .bind (leaves_uploadPart sends bucket key id number body) fun tag =>
          .bind (inductionHypothesis _ (by omega) _ _) fun later => .pure _

theorem leaves_abortUpload (bucket key id : String) :
    (abortUpload send bucket key id).Leaves observe := by
  intro world
  have left := sends (.abortUpload bucket key id) world
  rw [abortUpload, Effect.on_bind]
  cases (Effect.on (send (.abortUpload bucket key id)) world).1 with
  | ok answer => exact left
  | error fault => exact (steady.notes _ _ _).trans left

theorem leaves_uploadStream (bucket key : String) (source : StreamHandle)
    (partSize length : Nat) :
    (uploadStream send bucket key source partSize length).Leaves observe := by
  refine .bind (leaves_startUpload sends bucket key) fun id =>
    .bind (.attempt (leaves_uploadParts steady sends bucket key id source _ _ _ _)) fun sent => ?_
  cases sent with
  | ok parts => exact leaves_completeUpload sends bucket key id parts
  | error fault =>
      exact .bind (.lift (leaves_abortUpload steady sends bucket key id)) fun _ => .fail _

omit sends in
theorem leaves_issue (topic bucket key : String) (length : Nat) :
    (issue topic bucket key length).Leaves observe :=
  fun world => steady.notes _ _ world

theorem leaves_deposit (topic : String) (payload : ByteArray) (bucket : String) :
    (deposit send topic payload bucket).Leaves observe :=
  .bind (.lift steady.names) fun key =>
    .bind (leaves_putObject sends bucket key payload) fun _ => .lift (leaves_issue steady _ _ _ _)

theorem leaves_depositStream (topic : String) (source : StreamHandle) (length : Nat)
    (bucket : String) :
    (depositStream send place topic source length bucket).Leaves observe := by
  refine .bind (.lift steady.names) fun key => .bind (.lift fun _ => rfl) fun depot => ?_
  dsimp only
  split
  · exact .bind (leaves_readPart steady source _ _) fun body =>
      .bind (leaves_putObject sends bucket key body) fun _ => .lift (leaves_issue steady _ _ _ _)
  · exact .bind (leaves_uploadStream steady sends bucket key source _ _)
      fun _ => .lift (leaves_issue steady _ _ _ _)

omit steady in
theorem leaves_download (reference : Reference) : (download send reference).Leaves observe := by
  refine .bind (.ofExcept _) fun located => .bind (.lift (sends _)) fun answer => ?_
  cases answer with
  | error fault =>
      dsimp only
      split
      · exact .fail _
      · exact .fail _
  | ok answer =>
      cases answer with
      | object body => exact .pure body
      | done | part _ | upload _ => exact .pure _

end Leaves

def closing (depot : BucketDepot) : BucketDepot :=
  if depot.closed then depot else { depot with closed := true, cache := depot.cache.clear }

theorem Fits.closing {depot : BucketDepot} (fits : depot.Fits settings) :
    depot.closing.Fits settings := by
  rw [BucketDepot.closing]
  split
  · exact fits
  · exact ⟨fits.configured, ContainerCache.fits_clear _ _⟩

theorem held_close (lawful : place.Lawful) (world : World δ) :
    place.held (Effect.on (close place) world).2 =
      ((place.read world.state).closing, world.nameSource) :=
  Cell.held_shut lawful (·.closed)
    (fun depot => { depot with closed := true, cache := depot.cache.clear }) _ world

theorem stands_bucket (reliable : send.Reliable account) (spares : send.Spares place)
    (lawful : place.Lawful) (stands : place.Stands (Fits · settings) names world)
    (topic : String) :
    place.Stands (Fits · settings) names (Action.on (bucket send place topic) world).2 := by
  obtain ⟨fits, supplies, -⟩ := on_bucket reliable spares lawful stands.fits topic
  exact ⟨fits, (congrArg Prod.snd supplies).trans stands.named⟩

theorem stands_step (reliable : send.Reliable account) (spares : send.Spares place)
    (lawful : place.Lawful) (stands : place.Stands (Fits · settings) names world)
    (step : Depot.Step (depot send place) place world after) :
    place.Stands (Fits · settings) names after := by
  have sends := leaves_held reliable.confined spares
  cases step with
  | checkIn topic payload =>
      refine (stands_bucket reliable spares lawful stands topic).of_held ?_
      exact Action.Leaves.observe_bind (leaves_deposit place.steady_held sends topic payload) _ _
  | checkInStream topic source length =>
      refine (stands_bucket reliable spares lawful stands topic).of_held ?_
      exact Action.Leaves.observe_bind (leaves_depositStream place.steady_held sends topic source
        length) _ _
  | checkOut reference =>
      refine stands.of_held (Action.Leaves.bind (leaves_download sends reference) ?_ world)
      intro body
      cases StreamHandle.outcome body.drain with
      | ok bytes => exact .pure bytes
      | error fault => exact .fail _
  | checkOutStream reference =>
      exact stands.of_held (Action.Leaves.bind (leaves_download sends reference)
        (fun _ => .lift fun _ => rfl) world)
  | close =>
      have closed := held_close lawful world
      rw [stands.named] at closed
      exact .of_held_eq closed stands.fits.closing
  | elsewhere same => exact stands.of_held same

end Runs

end BucketDepot

end PayloadDepot
