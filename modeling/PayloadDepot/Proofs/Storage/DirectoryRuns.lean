import PayloadDepot.Proofs.Host.BlobName
import PayloadDepot.Proofs.Host.Files
import PayloadDepot.Proofs.Storage.ContainerCache
import PayloadDepot.Proofs.Storage.Frame
import PayloadDepot.Storage.Directory

/-!
# Runs of file system depots

The cache of a file system depot has no directory for a topic but the one below
the root that is named after it.  So a payload is looked for at the very path at
which its file was written, whatever calls came before, and the file is found
there.
-/

namespace PayloadDepot

variable {δ : Type}

namespace DirectoryDepot

open FileSystem (joinPath)

/-- A depot with a root, whose cache has the directories below it that are named after topics. -/
structure Fits (depot : DirectoryDepot) (root : String) : Prop where
  rooted : depot.root = root
  cache : depot.cache.Fits (joinPath root)

theorem fits_initial (root : String) (creates : Bool) :
    Fits { root := root, createsContainers := creates } root where
  rooted := rfl
  cache := ContainerCache.fits_empty _

variable {place : Cell δ DirectoryDepot} {world after : World δ} {root topic : String}

section Containers

theorem lawful_cacheCell (lawful : place.Lawful) : (cacheCell place).Lawful := by
  intro cache state
  simp [cacheCell, lawful _ state]

theorem read_write_cacheCell (lawful : place.Lawful) (cache : ContainerCache String) (state : δ) :
    place.read ((cacheCell place).write cache state) =
      { place.read state with cache := cache } :=
  lawful _ state

/-- Finding a container changes files and the journal only, and gives the directory below the root
that is named after the topic; of the files nothing changes but that the directory is made. -/
theorem on_findContainer (place : Cell δ DirectoryDepot) (topic : String) (world : World δ) :
    ∃ outcome files journal, Action.on (findContainer place topic) world =
        (outcome, { world with files := files, journal := journal }) ∧
      (∀ path, outcome = .ok path → path = joinPath (place.read world.state).root topic) ∧
        (files = world.files ∨ files = (world.files.makeDirectories
          (joinPath (place.read world.state).root topic)).2) := by
  rw [findContainer, Action.on_lift_bind, Cell.on_load]
  dsimp only
  rw [Action.on_lift_bind, World.on_files?]
  dsimp only
  split
  · refine ⟨_, world.files, world.journal, rfl, ?_, .inl rfl⟩
    rintro given ⟨⟩
    rfl
  · cases (place.read world.state).createsContainers with
    | false => exact ⟨_, world.files, world.journal, rfl, nofun, .inl rfl⟩
    | true =>
        simp only [Bool.not_true, Bool.false_eq_true, ↓reduceIte]
        rw [Action.on_lift_bind, World.on_onFiles]
        cases (world.files.makeDirectories (joinPath (place.read world.state).root topic)).1 with
        | error fault => exact ⟨_, _, _, rfl, nofun, .inr rfl⟩
        | ok _ =>
            refine ⟨_, _, _, rfl, ?_, .inr rfl⟩
            rintro given ⟨⟩
            rfl

/-- Looking a container up keeps the cache fitting and changes no supply of the world; it gives the
directory of a topic that is a single component of a path. -/
theorem on_container (lawful : place.Lawful) (fits : (place.read world.state).Fits root)
    (topic : String) :
    (place.read (Action.on (container place topic) world).2.state).Fits root ∧
      (Action.on (container place topic) world).2.supplies = world.supplies ∧
        ∀ {path}, (Action.on (container place topic) world).1 = .ok path →
          isSegment topic = true ∧ path = joinPath root topic := by
  rw [container]
  cases proper : isSegment topic with
  | false => exact ⟨fits, rfl, nofun⟩
  | true =>
      let kept (world : World δ) := ((place.read world.state).root, world.supplies)
      have apart : ∀ cache (world : World δ),
          kept (world.withState ((cacheCell place).write cache world.state)) = kept world := by
        intro cache world
        simp only [kept, World.withState_state, read_write_cacheCell lawful]
        rfl
      have slotted := apart (((cacheCell place).read world.state).slot topic).2 world
      have rooted : (place.read (ContainerCache.slotting (cacheCell place) topic
          world).state).root = root := (congrArg Prod.fst slotted).trans fits.rooted
      obtain ⟨outcome, files, journal, found, named, -⟩ := on_findContainer place topic
        (ContainerCache.slotting (cacheCell place) topic world)
      have makes : ContainerCache.Makes (cacheCell place) kept (joinPath root topic)
          (findContainer place topic) (ContainerCache.slotting (cacheCell place) topic world) := by
        refine ⟨by rw [found], by rw [found]; rfl, fun {path} given => ?_⟩
        rw [found] at given
        rw [named path given, rooted]
      obtain ⟨cacheFits, keptToo, given⟩ :=
        fits.cache.getOrCreate (lawful_cacheCell lawful) makes apart
      have root := (congrArg Prod.fst keptToo).trans fits.rooted
      exact ⟨⟨root, cacheFits⟩, congrArg Prod.snd keptToo, fun path => ⟨rfl, given path⟩⟩

end Containers

section CheckIns

variable {content : Action δ ByteArray} {names : FilePath} {length : Nat} {reference : Reference}

/-- A file that was written holds what was provided. -/
theorem of_writeContent_ok
    (wrote : Action.on (writeContent names content) world = (.ok length, after)) :
    ∃ bytes middle written flushed, Action.on content world = (.ok bytes, middle) ∧
      middle.files.writeFile names bytes = (.ok (), written) ∧
        written.flushFile = (.ok (), flushed) ∧ after = { middle with files := flushed } := by
  rw [writeContent] at wrote
  rcases ran : Action.on content world with ⟨fault | bytes, middle⟩
  · rw [Action.on_bind_of_error ran] at wrote
    cases wrote
  rw [Action.on_bind_of_ok ran, Action.on_lift_bind, World.on_onFiles] at wrote
  rcases writes : middle.files.writeFile names bytes with ⟨fault | ⟨⟩, written⟩ <;>
    rw [writes] at wrote
  · cases wrote
  dsimp only at wrote
  rw [Action.on_lift_bind, World.on_onFiles] at wrote
  rcases flushes : written.flushFile with ⟨fault | ⟨⟩, flushed⟩ <;> dsimp only at wrote <;>
    rw [flushes] at wrote
  · cases wrote
  cases wrote
  exact ⟨bytes, middle, written, flushed, rfl, writes, flushes, rfl⟩

/-- How a check-in ends. -/
inductive Ending (place : Cell δ DirectoryDepot) (topic : String) (content : Action δ ByteArray)
    (world : World δ) : Except Fault Reference → World δ → Prop
  | unopened {fault : Fault} {middle : World δ}
      (opened : Action.on (container place topic) world = (.error fault, middle)) :
      Ending place topic content world (.error fault) middle
  | uncreated {directory : String} {middle : World δ} {fault : IoFault} {later : FileSystem}
      (opened : Action.on (container place topic) world = (.ok directory, middle))
      (created : middle.files.createFile
        (joinPath directory (middle.nameSource middle.namesIssued)) = (.error fault, later)) :
      Ending place topic content world
        (.error (.depotBy (.blobNotCreated
          (joinPath directory (middle.nameSource middle.namesIssued))) (.io fault)))
        { middle with namesIssued := middle.namesIssued + 1, files := later }
  | unwritten {directory : String} {names : FilePath} {middle last : World δ}
      {made : FileSystem} {fault : Fault}
      (opened : Action.on (container place topic) world = (.ok directory, middle))
      (created : middle.files.createFile
        (joinPath directory (middle.nameSource middle.namesIssued)) = (.ok names, made))
      (wrote : Action.on (writeContent names content)
        { middle with namesIssued := middle.namesIssued + 1, files := made } =
          (.error fault, last)) :
      Ending place topic content world (.error fault)
        { last with files := last.files.drop names }
  | written {directory : String} {names : FilePath} {middle last : World δ}
      {made : FileSystem} {length : Nat}
      (opened : Action.on (container place topic) world = (.ok directory, middle))
      (created : middle.files.createFile
        (joinPath directory (middle.nameSource middle.namesIssued)) = (.ok names, made))
      (wrote : Action.on (writeContent names content)
        { middle with namesIssued := middle.namesIssued + 1, files := made } =
          (.ok length, last)) (journal : Array JournalLine) :
      Ending place topic content world
        (.ok (.compose scheme topic (middle.nameSource middle.namesIssued)))
        (last.withJournal journal)

theorem ending_checkInContent (place : Cell δ DirectoryDepot) (topic : String)
    (content : Action δ ByteArray) (world : World δ) :
    Ending place topic content world (Action.on (checkInContent place topic content) world).1
      (Action.on (checkInContent place topic content) world).2 := by
  rw [checkInContent]
  rcases opened : Action.on (container place topic) world with ⟨fault | directory, middle⟩
  · rw [Action.on_bind_of_error opened]
    exact .unopened opened
  rw [Action.on_bind_of_ok opened, Action.on_lift_bind, World.on_freshName]
  dsimp only
  rw [Action.on_lift_bind, World.on_onFiles]
  dsimp only
  rcases created : middle.files.createFile
    (joinPath directory (middle.nameSource middle.namesIssued)) with ⟨fault | names, made⟩
  · exact .uncreated opened created
  dsimp only
  rw [Action.on_lift_bind, Effect.on_attempt]
  rcases wrote : Action.on (writeContent names content)
    { middle with namesIssued := middle.namesIssued + 1, files := made } with
    ⟨fault | length, last⟩
  · exact .unwritten opened created wrote
  · exact .written opened created wrote _

/-- What is known of a check-in that gave a reference. -/
structure Kept (place : Cell δ DirectoryDepot) (root topic : String) (content : Action δ ByteArray)
    (world : World δ) (reference : Reference) (after : World δ) : Prop where
  fits : (place.read after.state).Fits root
  segment : isSegment topic = true
  wrote : ∃ before bytes number,
    before.supplies = world.supplies ∧ (Action.on content before).1 = .ok bytes ∧
      reference = .compose scheme topic (world.nameSource number) ∧
        after.files.find (joinPath (joinPath root topic) (world.nameSource number)) =
          .ok (.file bytes)

theorem kept_of_checkInContent (lawful : place.Lawful)
    (fits : (place.read world.state).Fits root)
    (leaves : content.Leaves fun world => (world.holdings, world.files))
    (issued : Action.on (checkInContent place topic content) world = (.ok reference, after)) :
    Kept place root topic content world reference after := by
  obtain ⟨fitsToo, supplies, given⟩ := on_container lawful fits topic
  have ending := ending_checkInContent place topic content world
  rw [issued] at ending
  cases ending with
  | written opened created wrote journal =>
      rename_i directory names middle last made length
      rw [opened] at fitsToo supplies given
      obtain ⟨segment, rfl⟩ := given rfl
      have sameNames : middle.nameSource = world.nameSource := congrArg Prod.snd supplies
      let before : World δ :=
        { middle with namesIssued := middle.namesIssued + 1, files := made }
      obtain ⟨bytes, provided, written, flushed, provides, writes, flush, rfl⟩ :=
        of_writeContent_ok wrote
      have left := leaves before
      rw [provides] at left
      have sameState : provided.state = middle.state := congrArg (fun left => left.1.1) left
      have sameFiles : provided.files = made := congrArg Prod.snd left
      rw [sameFiles] at writes
      refine ⟨?_, segment, before, bytes, middle.namesIssued, supplies,
        congrArg Prod.fst provides, ?_, ?_⟩
      · change (place.read provided.state).Fits root
        rw [sameState]
        exact fitsToo
      · rw [← sameNames]
      · rw [← sameNames]
        exact FileSystem.find_of_written created writes flush

end CheckIns

section Redeeming

variable {reference : Reference} {name path : String} {payload : ByteArray}

theorem isComponent_of_isSegment (segment : isSegment name = true) : Text.IsComponent name := by
  simp only [isSegment, Bool.and_eq_true, decide_eq_true_eq, List.all_eq_true] at segment
  exact ⟨segment.1.1.1, fun slashed => (segment.2 _ slashed).1.1 rfl⟩

theorem isSegment_of_isIdentifier (identifier : BlobName.IsIdentifier name) :
    isSegment name = true := by
  have plain (other : Char) (strange : BlobName.isDigit other = false ∧ other ≠ '-') :
      other ∉ name.toList := by
    intro mem
    rcases identifier.2 _ mem with digit | hyphen
    · rw [strange.1] at digit
      cases digit
    · exact strange.2 hyphen
  have noDot := plain '.' (by decide)
  have noSlash := plain '/' (by decide)
  have noBackslash := plain '\\' (by decide)
  have noNul := plain (Char.ofNat 0) (by decide)
  simp only [isSegment, Bool.and_eq_true, decide_eq_true_eq, List.all_eq_true]
  refine ⟨⟨⟨identifier.1, ?_⟩, ?_⟩, fun character mem => ⟨⟨?_, ?_⟩, ?_⟩⟩
  · rintro rfl
    exact noDot (by decide)
  · rintro rfl
    exact noDot (by decide)
  · rintro rfl
    exact noSlash mem
  · rintro rfl
    exact noBackslash mem
  · rintro rfl
    exact noNul mem

theorem blobPath_compose (depot : DirectoryDepot) (topicOk : isSegment topic = true)
    (nameOk : isSegment name = true) :
    depot.blobPath (.compose scheme topic name) =
      .ok (joinPath (joinPath depot.root topic) name) := by
  rw [blobPath, Reference.locate_compose scheme (isComponent_of_isSegment topicOk)
    (isComponent_of_isSegment nameOk)]
  simp [bind, Except.bind, topicOk, nameOk]

/-- A reference that leads to no path is refused before any file is looked for. -/
theorem on_openBlob_of_error {fault : Fault}
    (leads : (place.read world.state).blobPath reference = .error fault) :
    Action.on (openBlob place reference) world = (.error fault, world) := by
  rw [openBlob, Action.on_lift_bind, Cell.on_load]
  dsimp only
  rw [Action.on_ofExcept_bind, leads]

/-- A payload is handed out if its file is at the path that the reference leads to. -/
theorem redeems_of_find (leads : (place.read world.state).blobPath reference = .ok path)
    (found : world.files.find path = .ok (.file payload)) :
    (depot place).Redeems reference payload world := by
  have opened : Action.on (openBlob place reference) world = (.ok (.file payload), world) := by
    rw [openBlob, Action.on_lift_bind, Cell.on_load]
    dsimp only
    rw [Action.on_ofExcept_bind, leads]
    dsimp only
    rw [Action.on_lift_bind, World.on_files?, found]
    rfl
  exact ⟨congrArg Prod.fst (Action.on_bind_of_ok opened _), _, _, Action.on_bind_of_ok opened _,
    StreamHandle.on_drain_ofBytes payload world⟩

end Redeeming

section Runs

variable {content : Action δ ByteArray} {names : Nat → String}

/-- Writing leaves alone what the content, the writing and the flushing leave alone. -/
theorem leaves_writeContent {ρ : Type} {observe : World δ → ρ} (leaves : content.Leaves observe)
    (names : FilePath)
    (writes : ∀ bytes (world : World δ),
      observe { world with files := (world.files.writeFile names bytes).2 } = observe world)
    (flushes : ∀ world : World δ,
      observe { world with files := world.files.flushFile.2 } = observe world) :
    (writeContent names content).Leaves observe := by
  refine leaves.bind fun bytes => .bind (.lift (writes bytes)) fun wrote => ?_
  cases wrote with
  | error fault => exact .fail _
  | ok _ =>
      refine .bind (.lift flushes) fun flushed => ?_
      cases flushed with
      | error fault => exact .fail _
      | ok _ => exact .pure _

/-- Once its container is known, a check-in changes nothing that the depot keeps. -/
theorem held_checkInContent (leaves : content.Leaves place.held) (topic : String)
    (world : World δ) :
    place.held (Action.on (checkInContent place topic content) world).2 =
      place.held (Action.on (container place topic) world).2 := by
  refine Action.Leaves.observe_bind (fun directory => ?_) _ _
  refine .bind (.lift fun _ => rfl) fun name => .bind (.lift fun _ => rfl) fun created => ?_
  cases created with
  | error fault => exact .fail _
  | ok names =>
      refine .bind (.attempt (leaves_writeContent leaves names (fun _ _ => rfl) fun _ => rfl))
        fun wrote => ?_
      cases wrote with
      | error fault => exact .bind (.lift fun _ => rfl) fun _ => .fail _
      | ok length => exact .bind (.lift fun _ => rfl) fun _ => .pure _

theorem leaves_openBlob {ρ : Type} (observe : World δ → ρ) (reference : Reference) :
    (openBlob place reference).Leaves observe := by
  refine .bind (.lift fun _ => rfl) fun depot => .bind (.ofExcept _) fun path =>
    .bind (.lift fun _ => rfl) fun files => ?_
  cases files.find path with
  | ok entry => exact .pure _
  | error fault =>
      dsimp only
      split
      · exact .fail _
      · exact .fail _

theorem stands_checkInContent (lawful : place.Lawful)
    (stands : place.Stands (Fits · root) names world) (leaves : content.Leaves place.held)
    (topic : String) :
    place.Stands (Fits · root) names (Action.on (checkInContent place topic content) world).2 := by
  obtain ⟨fits, supplies, -⟩ := on_container lawful stands.fits topic
  have opened : place.Stands (Fits · root) names (Action.on (container place topic) world).2 :=
    ⟨fits, (congrArg Prod.snd supplies).trans stands.named⟩
  exact opened.of_held (held_checkInContent leaves topic world)

def closing (depot : DirectoryDepot) : DirectoryDepot :=
  if depot.closed then depot else { depot with closed := true, cache := depot.cache.clear }

theorem Fits.closing {depot : DirectoryDepot} (fits : depot.Fits root) :
    depot.closing.Fits root := by
  rw [DirectoryDepot.closing]
  split
  · exact fits
  · exact ⟨fits.rooted, ContainerCache.fits_clear _ _⟩

theorem held_close (lawful : place.Lawful) (world : World δ) :
    place.held (Effect.on (close place) world).2 =
      ((place.read world.state).closing, world.nameSource) :=
  Cell.held_shut lawful (·.closed)
    (fun depot => { depot with closed := true, cache := depot.cache.clear }) _ world

theorem stands_step (lawful : place.Lawful) (stands : place.Stands (Fits · root) names world)
    (step : Depot.Step (depot place) place world after) :
    place.Stands (Fits · root) names after := by
  cases step with
  | checkIn topic payload => exact stands_checkInContent lawful stands (.pure payload) topic
  | checkInStream topic source length =>
      refine stands_checkInContent lawful stands ?_ topic
      exact (Depot.leaves_readDeclared source length).map
        fun left => (place.read left.1.1, left.1.2)
  | checkOut reference =>
      refine stands.of_held (Action.Leaves.bind (leaves_openBlob _ reference) ?_ world)
      intro entry
      cases entry with
      | file content => exact .pure content
      | directory => exact .fail _
  | checkOutStream reference =>
      exact stands.of_held (Action.Leaves.bind (leaves_openBlob _ reference)
        (fun _ => .lift fun _ => rfl) world)
  | close =>
      have closed := held_close lawful world
      rw [stands.named] at closed
      exact .of_held_eq closed stands.fits.closing
  | elsewhere same => exact stands.of_held same

/-- A reference that was given leads to what was provided. -/
theorem Kept.redeems {reference : Reference}
    (kept : Kept place root topic content world reference after)
    (identifiers : ∀ number, BlobName.IsIdentifier (world.nameSource number)) :
    ∃ before bytes, before.supplies = world.supplies ∧
      (Action.on content before).1 = .ok bytes ∧ (depot place).Redeems reference bytes after := by
  obtain ⟨fits, segment, before, bytes, number, supplies, provided, rfl, found⟩ := kept
  refine ⟨before, bytes, supplies, provided, redeems_of_find ?_ found⟩
  rw [blobPath_compose _ segment (isSegment_of_isIdentifier (identifiers number)), fits.rooted]

theorem redeemsIssued_of_stands (lawful : place.Lawful)
    (stands : place.Stands (Fits · root) names world)
    (identifiers : ∀ number, BlobName.IsIdentifier (names number)) (topic : String) :
    (depot place).RedeemsIssued topic world where
  checkIn {payload reference after} issued := by
    have kept := kept_of_checkInContent lawful stands.fits (.pure payload) issued
    obtain ⟨before, bytes, -, provided, redeems⟩ := kept.redeems (stands.named ▸ identifiers)
    cases provided
    exact redeems
  checkInStream {source length reference after} issued := by
    have kept := kept_of_checkInContent lawful stands.fits
      (Depot.leaves_readDeclared source length) issued
    obtain ⟨before, bytes, supplies, provided, redeems⟩ :=
      kept.redeems (stands.named ▸ identifiers)
    obtain ⟨delivers, -⟩ := Depot.of_readDeclared_ok (Prod.ext provided rfl)
    have same : source.available before = source.available world :=
      StreamHandle.available_congr (congrArg Prod.fst supplies)
    exact ⟨bytes, ⟨same ▸ delivers.bytes, delivers.size⟩, redeems⟩

/-- A topic that is no single component of a path is refused before anything is done. -/
theorem refuses_of_not_isSegment (refused : isSegment topic = false) :
    (depot place).Refuses topic world := by
  have failed (content : Action δ ByteArray) :
      Action.on (checkInContent place topic content) world =
        (.error (.contract (.containerName topic)), world) := by
    have none : Action.on (container place topic) world =
        (.error (.contract (.containerName topic)), world) := by
      rw [container, refused]
      rfl
    exact Action.on_bind_of_error none _
  exact ⟨fun payload => ⟨_, congrArg Prod.fst (failed (pure payload))⟩,
    fun source length => ⟨_, congrArg Prod.fst (failed (Depot.readDeclared source length))⟩⟩

end Runs

end DirectoryDepot

end PayloadDepot
