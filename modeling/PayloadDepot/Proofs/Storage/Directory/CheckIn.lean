import PayloadDepot.Proofs.Storage.Directory.BlobFiles

/-!
# Files after a check-in

Before a file is made for a payload, a check-in of a file system depot adds at
most directories.  If the file cannot be made, or the payload cannot be read,
written or flushed, the files are those of the references that were given
before; if it gives a reference, the file that was made is the one of the
reference.
-/

namespace PayloadDepot

variable {δ : Type}

/-- The world but for the readers behind its streams. -/
def World.unread (world : World δ) : World δ :=
  world.withReaders #[]

theorem Depot.unread_readDeclared (source : StreamHandle) (length : Nat) :
    Action.Leaves (World.unread (δ := δ)) (readDeclared source length) := by
  intro world
  rcases Nat.lt_or_ge (source.available world).length length with short | enough
  · obtain ⟨fault, readers, read⟩ := on_readDeclared_of_lt short
    rw [read]
    rfl
  · obtain ⟨bytes, readers, read, -, -⟩ := on_readDeclared_of_le enough
    rw [read]
    rfl

namespace CheckInCall

/-- What a call checks in: its payload, or of its stream the first bytes, as many as declared. -/
def payload (world : World δ) : CheckInCall → ByteArray
  | whole _ payload => payload
  | stream _ source length => ⟨((source.available world).take length).toArray⟩

/-- The number of bytes that a call checks in. -/
def length : CheckInCall → Nat
  | whole _ payload => payload.size
  | stream _ _ length => length

/-- What a call reads to check it in. -/
def content : CheckInCall → Action δ ByteArray
  | whole _ payload => pure payload
  | stream _ source length => Depot.readDeclared source length

theorem unread_content (call : CheckInCall) :
    Action.Leaves (World.unread (δ := δ)) call.content := by
  cases call with
  | whole topic payload => exact .pure payload
  | stream topic source length => exact Depot.unread_readDeclared source length

/-- What was read is what the call checks in, and all of it. -/
theorem of_content_ok {call : CheckInCall} {world before after : World δ} {bytes : ByteArray}
    (readers : before.readers = world.readers)
    (ran : Action.on call.content before = (.ok bytes, after)) :
    bytes = call.payload world ∧ bytes.size = call.length := by
  cases call with
  | whole topic payload =>
      cases ran
      exact ⟨rfl, rfl⟩
  | stream topic source length =>
      obtain ⟨delivers, -⟩ := Depot.of_readDeclared_ok ran
      have bytes := delivers.bytes
      rw [StreamHandle.available_congr readers] at bytes
      exact ⟨ByteArray.ext (Array.toList_inj.mp bytes), delivers.size⟩

end CheckInCall

namespace DirectoryDepot

open FileSystem (joinPath IsPlain)

variable {place : Cell δ DirectoryDepot} {world after start : World δ} {root topic : String}
  {base : FilePath} {names : Nat → String} {issues : List Issue} {call : CheckInCall}

theorem on_eq_checkInContent (call : CheckInCall) :
    call.on (depot place) = checkInContent place call.topic call.content := by
  cases call <;> rfl

section Container

/-- Apart from what depots keep, looking a container up changes nothing, or what finding it
changes. -/
theorem observe_container {ρ : Type} (observe : World δ → ρ) (lawful : place.Lawful)
    (apart : ∀ state (world : World δ), observe (world.withState state) = observe world)
    (topic : String) (world : World δ) :
    observe (Action.on (container place topic) world).2 = observe world ∨
      isSegment topic = true ∧ observe (Action.on (container place topic) world).2 =
        observe (Action.on (findContainer place topic)
          (ContainerCache.slotting (cacheCell place) topic world)).2 := by
  rw [container]
  cases segment : isSegment topic with
  | false => exact .inl rfl
  | true =>
      rcases ContainerCache.observe_getOrCreate (lawful_cacheCell lawful)
        (fun _ world => apart _ world) topic (findContainer place topic) world with same | found
      · exact .inl same
      · exact .inr ⟨rfl, found⟩

theorem namesIssued_container (lawful : place.Lawful) (topic : String) (world : World δ) :
    (Action.on (container place topic) world).2.namesIssued = world.namesIssued := by
  rcases observe_container World.namesIssued lawful (fun _ _ => rfl) topic world with
    same | ⟨-, found⟩
  · exact same
  · obtain ⟨outcome, files, journal, ran, -⟩ := on_findContainer place topic
      (ContainerCache.slotting (cacheCell place) topic world)
    rw [found, ran]
    rfl

theorem root_slotting (lawful : place.Lawful) (topic : String) (world : World δ) :
    (place.read (ContainerCache.slotting (cacheCell place) topic world).state).root =
      (place.read world.state).root := by
  rw [ContainerCache.slotting, World.withState_state, read_write_cacheCell lawful]

/-- Of the files, looking a container up changes nothing, or makes the directory of the topic. -/
theorem files_container (lawful : place.Lawful) (rooted : (place.read world.state).root = root)
    (topic : String) :
    (Action.on (container place topic) world).2.files = world.files ∨
      isSegment topic = true ∧ (Action.on (container place topic) world).2.files =
        (world.files.makeDirectories (joinPath root topic)).2 := by
  rcases observe_container World.files lawful (fun _ _ => rfl) topic world with
    same | ⟨segment, found⟩
  · exact .inl same
  · obtain ⟨outcome, files, journal, ran, -, same | made⟩ := on_findContainer place topic
      (ContainerCache.slotting (cacheCell place) topic world)
    · rw [found, ran]
      exact .inl same
    · rw [found, ran]
      rw [root_slotting lawful, rooted] at made
      exact .inr ⟨segment, made⟩

/-- Below a root that is a directory, looking a container up makes the directory of the topic at
most. -/
theorem furnishes_container (lawful : place.Lawful) (rooted : Rooted world.files root base)
    (rootedPlace : (place.read world.state).root = root) (topic : String) :
    (Action.on (container place topic) world).2.files.Furnishes world.files
      (· = base ++ [topic]) := by
  rcases files_container lawful rootedPlace topic with same | ⟨segment, made⟩
  · rw [same]
    exact .refl _ _
  · rw [made]
    exact FileSystem.furnishes_makeDirectories rooted.leads rooted.directory
      (isSegment_iff.mp segment)

end Container

section CheckIns

variable {reference : Reference} {fault : Fault}

theorem unread_writeContent {names : FilePath} {before last : World δ}
    {outcome : Except Fault Nat}
    (wrote : Action.on (writeContent names call.content) before = (outcome, last)) :
    (last.state, last.nameSource, last.namesIssued) =
      (before.state, before.nameSource, before.namesIssued) := by
  have leaves := leaves_writeContent
    (call.unread_content.map fun world : World δ =>
      (world.state, world.nameSource, world.namesIssued))
    names (fun _ _ => rfl) (fun _ => rfl) before
  rw [wrote] at leaves
  exact leaves

theorem entry?_writeContent {path other : FilePath} {before last : World δ}
    {outcome : Except Fault Nat} (filled : path ≠ []) (different : other ≠ path)
    (wrote : Action.on (writeContent path call.content) before = (outcome, last)) :
    last.files.entry? other = before.files.entry? other := by
  have leaves := leaves_writeContent
    (call.unread_content.map fun world : World δ => world.files.entry? other) path
    (fun bytes _ => FileSystem.entry?_writeFile filled bytes different)
    (fun world => FileSystem.entry?_flushFile world.files other) before
  rw [wrote] at leaves
  exact leaves

/-- A check-in gives at most one name to a payload. -/
theorem namesIssued_checkIn (lawful : place.Lawful) {outcome : Except Fault Reference}
    (ran : Action.on (call.on (depot place)) world = (outcome, after)) :
    world.namesIssued ≤ after.namesIssued ∧ after.namesIssued ≤ world.namesIssued + 1 := by
  have ending := ending_checkInContent place call.topic call.content world
  have count := namesIssued_container lawful call.topic world
  rw [on_eq_checkInContent] at ran
  rw [ran] at ending
  cases ending with
  | unopened opened =>
      rw [opened] at count
      exact ⟨Nat.le_of_eq count.symm, Nat.le_succ_of_le (Nat.le_of_eq count)⟩
  | uncreated opened created =>
      rw [opened] at count
      exact ⟨Nat.le_succ_of_le (Nat.le_of_eq count.symm), Nat.le_of_eq (congrArg Nat.succ count)⟩
  | unwritten opened created wrote | written opened created wrote =>
      have issued := congrArg (fun unread => unread.2.2) (unread_writeContent wrote)
      rw [opened] at count
      dsimp only [World.withJournal] at issued count ⊢
      omega

/-- A file that was made for a payload lies where the name of the payload says. -/
theorem exists_of_createFile_ok (lawful : place.Lawful)
    (stands : place.Stands (Fits · root) names world) (rooted : Rooted world.files root base)
    (identifiers : ∀ number, BlobName.IsIdentifier (names number)) {directory : String}
    {middle : World δ} {path : FilePath} {made : FileSystem}
    (opened : Action.on (container place topic) world = (.ok directory, middle))
    (created : middle.files.createFile
      (joinPath directory (middle.nameSource middle.namesIssued)) = (.ok path, made)) :
    middle.supplies = (world.readers, names) ∧ middle.namesIssued = world.namesIssued ∧
      IsPlain topic ∧ IsPlain (names world.namesIssued) ∧
        path = base ++ [topic, names world.namesIssued] ∧
          middle.files.resolve (joinPath (joinPath root topic) (names world.namesIssued)) =
            .ok path := by
  have furnishes := furnishes_container lawful rooted stands.fits.rooted topic
  have count := namesIssued_container lawful topic world
  obtain ⟨-, supplies, given⟩ := on_container lawful stands.fits topic
  rw [opened] at furnishes count supplies given
  dsimp only at furnishes count supplies given
  obtain ⟨segment, rfl⟩ := given rfl
  have sameReaders : middle.readers = world.readers := congrArg Prod.fst supplies
  have sameNames : middle.nameSource = names := (congrArg Prod.snd supplies).trans stands.named
  rw [sameNames, count] at created
  have rootedMiddle : Rooted middle.files root base :=
    ⟨furnishes.resolve rooted.leads, furnishes.kept rooted.directory⟩
  have topicOk := isSegment_iff.mp segment
  have nameOk := isSegment_iff.mp (isSegment_of_isIdentifier (identifiers world.namesIssued))
  have resolved := (FileSystem.of_createFile_ok created).1
  obtain ⟨-, -, -, placed⟩ := (rootedMiddle.resolve_iff topicOk nameOk).mp resolved
  exact ⟨Prod.ext sameReaders sameNames, count, topicOk, nameOk, placed, resolved⟩

/-- A check-in that fails leaves the files of the references that were given before. -/
theorem keeps_of_error (lawful : place.Lawful) (stands : place.Stands (Fits · root) names world)
    (keeps : Keeps world.files root base names world.namesIssued issues)
    (identifiers : ∀ number, BlobName.IsIdentifier (names number))
    (apart : Apart names after.namesIssued)
    (failed : Action.on (call.on (depot place)) world = (.error fault, after)) :
    Keeps after.files root base names after.namesIssued issues := by
  have ending := ending_checkInContent place call.topic call.content world
  rw [on_eq_checkInContent] at failed
  rw [failed] at ending
  have furnishes := furnishes_container lawful keeps.rooted stands.fits.rooted call.topic
  have count := namesIssued_container lawful call.topic world
  cases ending with
  | unopened opened =>
      rw [opened] at furnishes count
      dsimp only at furnishes count
      rw [count]
      exact keeps.furnish furnishes (Nat.le_refl _)
  | uncreated opened created =>
      rw [opened] at furnishes count
      dsimp only at furnishes count ⊢
      rw [count]
      have same : FileSystem.Furnishes _ _ fun _ => True :=
        fun path => .inl (FileSystem.entry?_of_createFile_error created path)
      exact (keeps.furnish furnishes (Nat.le_refl _)).furnish same (Nat.le_succ _)
  | unwritten opened created wrote =>
      rename_i directory path middle last made
      obtain ⟨supplies, sameCount, topicOk, nameOk, rfl, resolved⟩ :=
        exists_of_createFile_ok lawful stands keeps.rooted identifiers opened created
      rw [opened] at furnishes
      have kept := keeps.furnish furnishes (Nat.le_refl _)
      obtain ⟨-, noDirectory, entries⟩ := FileSystem.of_createFile_ok created
      have filled := FileSystem.ne_nil_of_noDirectory noDirectory
      have issued : last.namesIssued = world.namesIssued + 1 := by
        rw [← sameCount]
        exact congrArg (fun unread => unread.2.2) (unread_writeContent wrote)
      dsimp only at apart ⊢
      rw [issued] at apart ⊢
      refine kept.discard apart noDirectory fun other => ?_
      rw [FileSystem.entry?_drop filled]
      split
      · rfl
      · next outside =>
        have different : other ≠ base ++ [call.topic, names world.namesIssued] := by
          rintro rfl
          exact outside List.prefix_rfl
        rw [entry?_writeContent filled different wrote, entries, if_neg different]

/-- A check-in that gives a reference adds the file of what it checks in. -/
theorem keeps_of_ok (lawful : place.Lawful) (stands : place.Stands (Fits · root) names world)
    (keeps : Keeps world.files root base names world.namesIssued issues)
    (identifiers : ∀ number, BlobName.IsIdentifier (names number))
    (apart : Apart names after.namesIssued)
    (ran : Action.on (call.on (depot place)) world = (.ok reference, after)) :
    Keeps after.files root base names after.namesIssued
        (issues ++ [⟨reference, call.payload world⟩]) ∧
      (call.payload world).size = call.length := by
  have ending := ending_checkInContent place call.topic call.content world
  rw [on_eq_checkInContent] at ran
  rw [ran] at ending
  have furnishes := furnishes_container lawful keeps.rooted stands.fits.rooted call.topic
  cases ending with
  | written opened created wrote journal =>
      rename_i directory path middle last made length
      obtain ⟨supplies, sameCount, topicOk, nameOk, rfl, resolved⟩ :=
        exists_of_createFile_ok lawful stands keeps.rooted identifiers opened created
      rw [opened] at furnishes
      have kept := keeps.furnish furnishes (Nat.le_refl _)
      obtain ⟨-, noDirectory, entries⟩ := FileSystem.of_createFile_ok created
      have filled := FileSystem.ne_nil_of_noDirectory noDirectory
      obtain ⟨bytes, provided, written, flushed, provides, writes, flush, rfl⟩ :=
        of_writeContent_ok wrote
      have sameReaders : middle.readers = world.readers := congrArg Prod.fst supplies
      let before : World δ :=
        { middle with namesIssued := middle.namesIssued + 1, files := made }
      have beforeReaders : before.readers = world.readers := sameReaders
      obtain ⟨rfl, size⟩ := CheckInCall.of_content_ok beforeReaders provides
      have left := call.unread_content
        { middle with namesIssued := middle.namesIssued + 1, files := made }
      rw [provides] at left
      have issued : provided.namesIssued = world.namesIssued + 1 := by
        rw [← sameCount]
        exact congrArg World.namesIssued left
      have sameFiles : provided.files = made := congrArg World.files left
      have sameNames : middle.nameSource = names := congrArg Prod.snd supplies
      rw [sameFiles] at writes
      change Keeps flushed root base names provided.namesIssued _ ∧ _
      change Apart names provided.namesIssued at apart
      rw [issued] at apart ⊢
      rw [sameNames, sameCount]
      refine ⟨kept.add apart topicOk nameOk resolved noDirectory fun other => ?_, size⟩
      rw [FileSystem.of_flushFile_ok flush, FileSystem.of_writeFile_ok filled writes, entries]
      split <;> rfl

end CheckIns

end DirectoryDepot

end PayloadDepot
