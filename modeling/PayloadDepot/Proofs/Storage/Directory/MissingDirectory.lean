import PayloadDepot.Proofs.Storage.Declining
import PayloadDepot.Proofs.Storage.Directory.CheckIn

/-!
# Missing directories

A file system depot finds out that a directory is missing before it reads
anything: when it looks for the directory, or, if it remembers one that was
removed since, when it makes the file.  Neither changes a file, so what is
checked in is declined.
-/

namespace PayloadDepot

variable {δ : Type}

namespace DirectoryDepot

open FileSystem (joinPath)

variable {place : Cell δ DirectoryDepot} {world after : World δ} {root topic : String}

def wholeContent : FileEntry → Except Fault ByteArray
  | .file content => .ok content
  | .directory => .error (.io .isADirectory)

theorem opens (place : Cell δ DirectoryDepot) :
    (depot place).Opens (openBlob place) (fun _ => wholeContent) contentReader where
  checkOut reference world := by
    change (Action.on (checkOut place reference) world).1 = _
    rw [checkOut, Action.on_bind]
    rcases Action.on (openBlob place reference) world with ⟨fault | entry, opened⟩
    · rfl
    · cases entry <;> rfl
  checkOutStream _ := rfl

theorem openBlob_congr (files : after.files = world.files)
    (root : (place.read after.state).root = (place.read world.state).root)
    (reference : Reference) :
    (Action.on (openBlob place reference) after).1 =
      (Action.on (openBlob place reference) world).1 := by
  have leads : (place.read after.state).blobPath reference =
      (place.read world.state).blobPath reference := by
    rw [blobPath, blobPath, root]
  simp only [openBlob, Action.on_lift_bind, Cell.on_load, Action.on_ofExcept_bind, leads]
  cases (place.read world.state).blobPath reference with
  | error fault => rfl
  | ok path =>
      simp only [World.on_files?, files]
      cases world.files.find path with
      | ok entry => rfl
      | error fault =>
          dsimp only
          split <;> rfl

theorem unmoved_of_files (files : after.files = world.files)
    (root : (place.read after.state).root = (place.read world.state).root) :
    (depot place).Unmoved World.files world after where
  kept := files
  redeems reference _ := (opens place).redeems_congr (openBlob_congr files root reference)

/-- Looking a container up that is missing fails, or gives the directory that was remembered. -/
theorem on_container_of_missing (lawful : place.Lawful)
    (fits : (place.read world.state).Fits root)
    (creates : (place.read world.state).createsContainers = false)
    (segment : isSegment topic = true)
    (missing : world.files.isDirectory (joinPath root topic) = false) :
    Action.on (container place topic) world =
        (.ok (joinPath root topic), ContainerCache.slotting (cacheCell place) topic world) ∨
      Action.on (container place topic) world = (.error (.depot (.containerMissing topic)),
        ContainerCache.slotting (cacheCell place) topic world) := by
  have lawfulCache := lawful_cacheCell lawful
  have looked : Action.on (container place topic) world = Action.on
      (ContainerCache.getOrCreate (cacheCell place) topic (findContainer place topic)) world := by
    rw [container, segment]
    rfl
  rw [looked]
  cases cached : (place.read world.state).cache.get? topic with
  | some directory =>
      obtain rfl := fits.cache.fits cached
      exact .inl (ContainerCache.on_getOrCreate_of_some lawfulCache cached _)
  | none =>
      let slotted := ContainerCache.slotting (cacheCell place) topic world
      have read : place.read slotted.state = { place.read world.state with
          cache := ((place.read world.state).cache.slot topic).2 } :=
        read_write_cacheCell lawful _ _
      have absent : Action.on (findContainer place topic) slotted =
          (.error (.depot (.containerMissing topic)), slotted) := by
        have same : slotted.files = world.files := rfl
        rw [findContainer, Action.on_lift_bind, Cell.on_load]
        dsimp only
        rw [Action.on_lift_bind, World.on_files?, read, fits.rooted, same, missing, creates]
        rfl
      exact .inr (ContainerCache.on_getOrCreate_of_error lawfulCache cached absent)

theorem declined_checkInContent (lawful : place.Lawful)
    (fits : (place.read world.state).Fits root)
    (identifiers : ∀ number, BlobName.IsIdentifier (world.nameSource number))
    (creates : (place.read world.state).createsContainers = false)
    (segment : isSegment topic = true)
    (missing : world.files.isDirectory (joinPath root topic) = false)
    (content : Action δ ByteArray) :
    (depot place).Declined World.files world
      (Action.on (checkInContent place topic content) world) := by
  let slotted := ContainerCache.slotting (cacheCell place) topic world
  have sameRoot := root_slotting lawful topic world
  have ending := ending_checkInContent place topic content world
  rcases ran : Action.on (checkInContent place topic content) world with ⟨outcome, after⟩
  rw [ran] at ending
  rcases on_container_of_missing lawful fits creates segment missing with opened | opened
  · -- The directory is remembered, so that it is missing shows when the file is to be made.
    have filled : joinPath root topic ≠ "" := by
      have noName := (isSegment_iff.mp segment).filled
      rw [joinPath]
      split <;> simp [noName]
    have plain := isSegment_iff.mp (isSegment_of_isIdentifier (identifiers world.namesIssued))
    obtain ⟨fault, created⟩ := FileSystem.createFile_of_missing filled plain missing
    have refused : slotted.files.createFile
        (joinPath (joinPath root topic) (slotted.nameSource slotted.namesIssued)) =
          (.error fault, slotted.files) := created
    cases ending with
    | unopened failed =>
        rw [opened] at failed
        cases failed
    | uncreated found created =>
        rw [opened] at found
        cases found
        rw [refused] at created
        cases created
        exact ⟨⟨_, rfl, rfl⟩, rfl, unmoved_of_files rfl sameRoot⟩
    | unwritten found created | written found created =>
        rw [opened] at found
        cases found
        rw [refused] at created
        cases created
  · cases ending with
    | unopened failed =>
        rw [opened] at failed
        cases failed
        exact ⟨⟨_, rfl, rfl⟩, rfl, unmoved_of_files rfl sameRoot⟩
    | uncreated found | unwritten found | written found =>
        rw [opened] at found
        cases found

theorem declines (lawful : place.Lawful) (fits : (place.read world.state).Fits root)
    (identifiers : ∀ number, BlobName.IsIdentifier (world.nameSource number))
    (creates : (place.read world.state).createsContainers = false)
    (segment : isSegment topic = true)
    (missing : world.files.isDirectory (joinPath root topic) = false) :
    (depot place).Declines World.files (fun _ => False) topic world where
  checkIn payload :=
    declined_checkInContent lawful fits identifiers creates segment missing (pure payload)
  checkInStream source length _ :=
    declined_checkInContent lawful fits identifiers creates segment missing
      (Depot.readDeclared source length)
  checkInStream_of_readsFirst _ _ never := never.elim

end DirectoryDepot

end PayloadDepot
