import PayloadDepot.Proofs.Storage.Frame
import PayloadDepot.Storage.Bucket.Depot

/-!
# Object stores that can be relied on

What lies behind a channel is known only by what its requests do.  A store can
be relied on if it changes nothing but itself, delivers the last body that was
put under a key, takes parts under numbers from one on only, and puts the listed
parts of an upload under its key once the upload is completed.  A store that is
kept in a place of the world is such a store.
-/

namespace PayloadDepot

variable {δ σ : Type}

/-- What the state of a world tells about a store: the objects that it delivers, and the uploads
that are open. -/
structure StoreAccount (δ : Type) where
  object : δ → String → String → Option ByteArray
  upload : δ → String → Option OpenUpload

/-- The requests behind a channel do what object stores promise of them, if they are served. -/
structure StoreChannel.Reliable (send : StoreChannel δ) (account : StoreAccount δ) : Prop where
  confined : ∀ request, (send request).Leaves World.supplies
  object_put : ∀ {bucket key body world answer after},
    Effect.on (send (.putObject bucket key body)) world = (.ok answer, after) →
      account.object after.state bucket key = some body
  object_got : ∀ {bucket key body world}, account.object world.state bucket key = some body →
    ∃ reader, (Effect.on (send (.getObject bucket key)) world).1 = .ok (.object reader) ∧
      StreamHandle.outcome reader.drain = .ok body
  upload_created : ∀ {bucket key world id after},
    Effect.on (send (.createUpload bucket key)) world = (.ok (.upload (some id)), after) →
      ∃ parts, account.upload after.state id = some ⟨bucket, key, parts⟩
  part_uploaded : ∀ {bucket key id number body parts world answer after},
    account.upload world.state id = some ⟨bucket, key, parts⟩ →
      Effect.on (send (.uploadPart bucket key id number body)) world = (.ok answer, after) →
        account.upload after.state id = some ⟨bucket, key, parts.insert number body⟩
  part_numbered : ∀ {bucket key id number body world answer after},
    Effect.on (send (.uploadPart bucket key id number body)) world = (.ok answer, after) →
      1 ≤ number
  upload_completed : ∀ {bucket key id parts listed body world answer after},
    account.upload world.state id = some ⟨bucket, key, parts⟩ →
      ObjectStore.assemble parts (listed.map Prod.fst) = some body →
        Effect.on (send (.completeUpload bucket key id listed)) world = (.ok answer, after) →
          account.object after.state bucket key = some body

/-- Requests over a channel do not reach into a place. -/
def StoreChannel.Spares (send : StoreChannel δ) (place : Cell δ σ) : Prop :=
  ∀ request, (send request).Leaves fun world => place.read world.state

namespace ObjectStore

/-- The objects and uploads in buckets that there are. -/
def account (place : Cell δ ObjectStore) : StoreAccount δ where
  object state bucket key :=
    if bucket ∈ (place.read state).buckets then (place.read state).objects.get? (bucket, key)
    else none
  upload state id :=
    ((place.read state).uploads.get? id).filter fun upload =>
      upload.bucket ∈ (place.read state).buckets

variable {place : Cell δ ObjectStore}

theorem upload_account_eq_some_iff {state : δ} {id : String} {upload : OpenUpload} :
    (account place).upload state id = some upload ↔
      (place.read state).uploads.get? id = some upload ∧
        upload.bucket ∈ (place.read state).buckets := by
  simp [account, Option.filter_eq_some_iff]

theorem reliable_toStore (lawful : place.Lawful) :
    (StoreChannel.toStore place).Reliable (account place) where
  confined request world := rfl
  object_put {bucket key body world answer after} put := by
    rw [StoreChannel.toStore, Cell.on_updateGet, serve] at put
    split at put
    · next held =>
      cases put
      simp [account, lawful _ world.state, held]
    · cases put
  object_got {bucket key body world} held := by
    simp only [account] at held
    split at held
    · next bucketHeld =>
      refine ⟨.ofBytes body, ?_, StreamHandle.outcome_drain_ofBytes body⟩
      rw [StoreChannel.toStore, Cell.on_updateGet, serve]
      simp [bucketHeld, held]
    · cases held
  upload_created {bucket key world id after} created := by
    rw [StoreChannel.toStore, Cell.on_updateGet, serve] at created
    split at created
    · next held =>
      cases created
      refine ⟨.empty, upload_account_eq_some_iff.mpr ?_⟩
      simp [lawful _ world.state, held]
    · cases created
  part_uploaded {bucket key id number body parts world answer after} opened uploaded := by
    obtain ⟨opened, held⟩ := upload_account_eq_some_iff.mp opened
    rw [StoreChannel.toStore, Cell.on_updateGet, serve, opened] at uploaded
    dsimp only at uploaded
    split at uploaded
    · cases uploaded
    · cases uploaded
      refine upload_account_eq_some_iff.mpr ?_
      simp only [World.withState_state, lawful _ world.state]
      exact ⟨Table.get?_insert_self _ _ _, held⟩
  part_numbered {bucket key id number body world answer after} uploaded := by
    rw [StoreChannel.toStore, Cell.on_updateGet, serve] at uploaded
    split at uploaded
    · cases uploaded
    · split at uploaded
      · cases uploaded
      · next served => exact Int32.not_lt.mp served
  upload_completed {bucket key id parts listed body world answer after} opened assembled
      completed := by
    obtain ⟨opened, held⟩ := upload_account_eq_some_iff.mp opened
    rw [StoreChannel.toStore, Cell.on_updateGet, serve, opened] at completed
    simp only [assembled] at completed
    cases completed
    simp only [account, World.withState_state, lawful _ world.state]
    rw [if_pos held]
    exact Table.get?_insert_self _ _ _

theorem spares_toStore {other : Cell δ σ} (apart : place.Apart other) :
    (StoreChannel.toStore place).Spares other :=
  fun _ world => apart.read_right _ world.state

end ObjectStore

end PayloadDepot
