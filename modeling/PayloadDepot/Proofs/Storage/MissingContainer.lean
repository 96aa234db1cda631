import PayloadDepot.Proofs.Storage.Bucket.MissingBucket
import PayloadDepot.Proofs.Storage.Directory.MissingDirectory

/-!
# Missing containers

Every depot that may not create containers refuses what is checked in for a
topic whose container is missing, and neither what it keeps nor what its
references lead to is changed by that.  Whether the stream is left alone too, and
the fault is always one of storage, depends on what is done first.
-/

namespace PayloadDepot

variable {δ : Type}

/-- How depots that are new in a world decline, in it and in every later one, what is checked in for
a topic whose container is missing and may not be created. -/
structure Depot.WithoutContainers (start : World δ) : Prop where
  /-- A file system depot never reads the stream, whether or not it remembers the directory. -/
  directory : ∀ {place : Cell δ DirectoryDepot} {root topic : String} {creates : Bool} {world},
    place.Lawful → place.read start.state = { root := root, createsContainers := creates } →
      (DirectoryDepot.depot place).Leads place start world →
        (place.read world.state).createsContainers = false →
          DirectoryDepot.isSegment topic = true →
            world.files.isDirectory (FileSystem.joinPath root topic) = false →
              (DirectoryDepot.depot place).Declines World.files (fun _ => False) topic world
  /-- An object store depot reads the stream if it remembers the bucket and the stream fits into one
  part. -/
  bucket : ∀ {ρ : Type} {send : StoreChannel δ} {account : StoreAccount δ}
    {place : Cell δ BucketDepot} {view : δ → ρ} {settings : StoreSettings} {topic : String} {world},
    send.Reliable account → send.Spares place → send.Viewed place view → place.Lawful →
      place.read start.state = { settings := settings } →
        (BucketDepot.depot send place).Leads place start world →
          settings.createsBuckets = false →
            send.Lacks view (view world.state) (settings.bucket topic) →
              (BucketDepot.depot send place).Declines (fun world => view world.state)
                (fun length => (place.read world.state).cache.get? topic ≠ none ∧
                  length ≤ settings.partSize) topic world
  /-- A memory depot reads every stream. -/
  memory : ∀ {place : Cell δ MemoryDepot} {topic : String} {creates : Bool} {world}, place.Lawful →
    place.read start.state = { createsContainers := creates } →
      MemoryDepot.Leads place start world →
        (place.read world.state).createsContainers = false →
          (place.read world.state).container? topic = none →
            (MemoryDepot.depot place).Declines (MemoryDepot.stored place) (fun _ => True) topic
              world

/-- Depots whose payloads have identifiers for names decline what has no container. -/
theorem Depot.withoutContainers {start : World δ}
    (identifiers : ∀ number, BlobName.IsIdentifier (start.nameSource number)) :
    WithoutContainers start where
  directory {place root topic creates world} lawful new leads policy segment missing := by
    have stands := leads.stands
      (.of_held_eq (Prod.ext new rfl) (DirectoryDepot.fits_initial root creates))
      fun step stands => DirectoryDepot.stands_step lawful stands step
    exact DirectoryDepot.declines lawful stands.fits (stands.named ▸ identifiers) policy segment
      missing
  bucket {ρ send account place view settings topic world} reliable spares viewed lawful new leads
      policy lacks := by
    have stands := leads.stands
      (.of_held_eq (Prod.ext new rfl) (BucketDepot.fits_initial settings))
      fun step stands => BucketDepot.stands_step reliable spares lawful stands step
    exact BucketDepot.declines viewed reliable.confined lawful stands.fits policy lacks
  memory {place topic creates world} lawful new leads policy missing := by
    have sound := (MemoryDepot.intact_of_empty new).sound
    exact MemoryDepot.declines lawful (sound.of_leads lawful leads) policy missing

/-- A world with a file system, a state and one stream of three bytes. -/
def World.besideText (files : FileSystem) (state : δ) : World δ :=
  { World.initial 0 files state with readers := #[.ofBytes "abc".toUTF8] }

/-- A file system depot below a root without directories, which it may not create. -/
def DirectoryDepot.unfurnished : World DirectoryDepot :=
  .besideText ⟨[(["root"], .directory)], []⟩ { root := "root" }

/-- A memory depot without containers, which it may not create. -/
def MemoryDepot.unfurnished : World MemoryDepot :=
  .besideText .empty {}

/-- An object store depot that may not create buckets, and a store with one bucket. -/
def BucketDepot.beforeRemoval : World (ObjectStore × BucketDepot) :=
  .besideText .empty ({ buckets := ["orders"] }, { settings := {
      endpoint := none
      region := StoreSettings.defaultRegion
      bucketLead := ""
      forcePathStyle := false
      credentials := .standard
      partSize := 3
      createsBuckets := false } })

/-- The depot has found the bucket, and then someone else has removed it. -/
def BucketDepot.afterRemoval : World (ObjectStore × BucketDepot) :=
  let used := (Action.on (checkIn (.toStore .left) .right "orders" "four".toUTF8) beforeRemoval).2
  used.withState ({}, used.state.2)

/-- A stream is left alone where the directory or the bucket was never there; it is read where the
bucket was removed, and by a memory depot each time. -/
theorem Depot.withoutContainers_besideText :
    (let depot : Depot DirectoryDepot := DirectoryDepot.depot .whole
     depot.Declined World.files DirectoryDepot.unfurnished
        (Action.on (depot.checkInStream "orders" ⟨0⟩ 5) DirectoryDepot.unfurnished)) ∧
      (let depot : Depot (ObjectStore × BucketDepot) := BucketDepot.depot (.toStore .left) .right
       depot.Declined (fun world => world.state.1) BucketDepot.beforeRemoval
            (Action.on (depot.checkInStream "absent" ⟨0⟩ 5) BucketDepot.beforeRemoval) ∧
          depot.DeclinedOnceRead (fun world => world.state.1) ⟨0⟩ 2 BucketDepot.afterRemoval
            (Action.on (depot.checkInStream "orders" ⟨0⟩ 2) BucketDepot.afterRemoval)) ∧
        (let depot : Depot MemoryDepot := MemoryDepot.depot .whole
         let again := (Action.on (depot.checkInStream "orders" ⟨0⟩ 2) MemoryDepot.unfurnished).2
         depot.DeclinedOnceRead (MemoryDepot.stored .whole) ⟨0⟩ 5 again
            (Action.on (depot.checkInStream "orders" ⟨0⟩ 5) again)) := by
  refine ⟨?_, ?_, ?_⟩
  · have honoured : Depot.WithoutContainers DirectoryDepot.unfurnished :=
      Depot.withoutContainers (BlobName.isIdentifier_ofNumber 0)
    have missing : DirectoryDepot.unfurnished.files.isDirectory
        (FileSystem.joinPath "root" "orders") = false := by decide +kernel
    exact (honoured.directory Cell.lawful_whole rfl .refl rfl (by decide) missing).checkInStream
      ⟨0⟩ 5 not_false
  · have honoured : Depot.WithoutContainers BucketDepot.beforeRemoval :=
      Depot.withoutContainers (BlobName.isIdentifier_ofNumber 0)
    have reliable := ObjectStore.reliable_toStore
      (Cell.lawful_left : (Cell.left : Cell (ObjectStore × BucketDepot) ObjectStore).Lawful)
    have declines {topic : String} {world : World (ObjectStore × BucketDepot)}
        (leads : (BucketDepot.depot (.toStore .left) .right).Leads Cell.right
          BucketDepot.beforeRemoval world)
        (missing : BucketDepot.beforeRemoval.state.2.settings.bucket topic ∉
          world.state.1.buckets) :=
      honoured.bucket reliable (ObjectStore.spares_toStore Cell.apart_left_right)
        (ObjectStore.viewed_toStore Cell.apart_left_right) Cell.lawful_right rfl leads rfl
        (ObjectStore.lacks_toStore Cell.lawful_left missing)
    refine ⟨?_, ?_⟩
    · exact (declines .refl (by decide +kernel)).checkInStream ⟨0⟩ 5
        fun remembered => remembered.1 rfl
    · have used : (BucketDepot.depot (.toStore .left) .right).Step Cell.right
          BucketDepot.beforeRemoval _ := .checkIn "orders" "four".toUTF8
      have leads : (BucketDepot.depot (.toStore .left) .right).Leads Cell.right
          BucketDepot.beforeRemoval BucketDepot.afterRemoval :=
        .tail (.single used) (.elsewhere rfl)
      have remembered : BucketDepot.afterRemoval.state.2.cache.get? "orders" ≠ none := by
        decide +kernel
      exact (declines leads List.not_mem_nil).checkInStream_of_readsFirst ⟨0⟩ 2
        ⟨remembered, by decide⟩
  · have honoured : Depot.WithoutContainers MemoryDepot.unfurnished :=
      Depot.withoutContainers (BlobName.isIdentifier_ofNumber 0)
    have leads := MemoryDepot.leads_checkInStream .whole "orders" ⟨0⟩ 2 MemoryDepot.unfurnished
    exact (honoured.memory Cell.lawful_whole rfl leads rfl rfl).checkInStream_of_readsFirst
      ⟨0⟩ 5 trivial

/-- A memory depot without a container for the topic uses a stream up, and if the stream ends early,
tells of that instead of the container. -/
theorem MemoryDepot.uses_up_stream_without_container :
    let depot : Depot MemoryDepot := MemoryDepot.depot .whole
    let stored := MemoryDepot.stored Cell.whole
    let early := Action.on (depot.checkInStream "orders" ⟨0⟩ 5) unfurnished
    let exact := Action.on (depot.checkInStream "orders" ⟨0⟩ 3) unfurnished
    unfurnished.state.createsContainers = false ∧ unfurnished.state.container? "orders" = none ∧
      StreamHandle.available ⟨0⟩ unfurnished = "abc".toUTF8.data.toList ∧
        early.1 = .error (.contract (.streamShort 3 5)) ∧
          StreamHandle.available ⟨0⟩ early.2 = [] ∧ ¬ depot.Declined stored unfurnished early ∧
            exact.1 = .error (.depot (.containerMissing "orders")) ∧
              StreamHandle.available ⟨0⟩ exact.2 = [] ∧
                ¬ depot.Declined stored unfurnished exact := by
  intro depot stored early exact
  have full : StreamHandle.available ⟨0⟩ unfurnished = "abc".toUTF8.data.toList := by
    decide +kernel
  have told : early.1 = .error (.contract (.streamShort 3 5)) := by decide +kernel
  have empty : StreamHandle.available ⟨0⟩ exact.2 = [] := by decide +kernel
  refine ⟨rfl, rfl, full, told, by decide +kernel, fun declined => ?_, by decide +kernel, empty,
    fun declined => ?_⟩
  · obtain ⟨fault, failed, storage⟩ := declined.fails
    rw [told] at failed
    cases failed
    cases storage
  · rw [StreamHandle.available_congr declined.unread, full] at empty
    revert empty
    decide +kernel

end PayloadDepot
