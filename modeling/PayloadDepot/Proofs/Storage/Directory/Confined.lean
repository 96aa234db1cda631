import PayloadDepot.Proofs.Host.Session
import PayloadDepot.Proofs.Storage.Directory.CheckIn
import PayloadDepot.Proofs.Storage.Issued

/-!
# File system depots stay below their root

A reference may come from anyone, and a topic from any producer.  Yet the only
paths that a file system depot hands to the file system are those of a directory
directly below the root and of files directly in that one, whatever the file
system answers; every other reference is a bad one and every other topic breaks
the contract, before any file is touched.
-/

namespace PayloadDepot

variable {δ α β : Type}

namespace Action

/-- An action opens one path and touches no other one, and it only succeeds with what is there. -/
def Opens (action : Action δ α) (world : World δ) (path : String) : Prop :=
  ∃ finish : Except IoFault FileEntry → Except Fault α × World δ,
    action.Performs world (.call (.find path) fun answer => .done (finish answer)) ∧
      (∀ content, ∃ value, (finish (.ok (.file content))).1 = .ok value) ∧
        ∀ fault, ∃ refused, (finish (.error fault)).1 = .error refused

/-- An action is refused without any file being touched. -/
def Refuses (action : Action δ α) (world : World δ) (fault : Fault) : Prop :=
  ∀ files, on action (world.withFiles files) = (.error fault, world.withFiles files)

end Action

theorem Depot.fileless_readDeclared (source : StreamHandle) (length : Nat) :
    (readDeclared source length : Action δ ByteArray).Fileless := by
  intro world files
  have same : (Effect.on (source.take length) (world.withFiles files)).1 =
      (Effect.on (source.take length) world).1 := rfl
  rw [readDeclared, Action.on_lift_bind, Action.on_lift_bind, same]
  cases (Effect.on (source.take length) world).1 with
  | error fault => rfl
  | ok bytes =>
      dsimp only
      split <;> rfl

theorem CheckInCall.fileless_content (call : CheckInCall) :
    (call.content : Action δ ByteArray).Fileless := by
  cases call with
  | whole topic payload => exact fun _ _ => rfl
  | stream topic source length => exact Depot.fileless_readDeclared source length

namespace DirectoryDepot

open FileSystem (joinPath IsPlain)

variable {place : Cell δ DirectoryDepot} {world after start : World δ} {root topic name : String}
  {base : FilePath} {names : Nat → String} {call : CheckInCall} {reference : Reference}

section CheckOuts

theorem blobPath_cases (depot : DirectoryDepot) (reference : Reference) :
    (∃ topic name, IsPlain topic ∧ IsPlain name ∧ reference = .compose scheme topic name) ∨
      depot.blobPath reference = .error (.badReference reference.text) := by
  rw [blobPath]
  cases located : reference.locate scheme with
  | error fault =>
      rw [Reference.locate] at located
      split at located
      · cases located
      · cases located
        exact .inr rfl
  | ok parts =>
      obtain ⟨topic, name⟩ := parts
      change _ ∨ (if isSegment topic && isSegment name then _ else _) = _
      split
      · next segments =>
        rw [Bool.and_eq_true] at segments
        exact .inl ⟨topic, name, isSegment_iff.mp segments.1, isSegment_iff.mp segments.2,
          Reference.eq_compose_of_locate located⟩
      · exact .inr rfl

/-- What is done with an open file is done once its path was opened, and nothing else is. -/
theorem opens_openBlob_bind (rooted : (place.read world.state).root = root)
    (topicOk : IsPlain topic) (nameOk : IsPlain name) {next : FileEntry → Action δ α}
    (fileless : ∀ entry, (next entry).Fileless)
    (serves : ∀ content, ∃ value, (Action.on (next (.file content)) world).1 = .ok value) :
    (openBlob place (.compose scheme topic name) >>= next).Opens world
      (joinPath (joinPath root topic) name) := by
  let path := joinPath (joinPath root topic) name
  let refusal (fault : IoFault) : Fault :=
    if fault.kind = .notFound then
      .depot (.claimMissing (Reference.compose scheme topic name).text)
    else .depotBy (.blobNotOpened path) (.io fault)
  have opened (files : FileSystem) :
      Action.on (openBlob place (.compose scheme topic name)) (world.withFiles files) =
        ((files.find path).mapError refusal, world.withFiles files) := by
    have leads : (place.read (world.withFiles files).state).blobPath
        (.compose scheme topic name) = .ok path := by
      rw [blobPath_compose _ (isSegment_iff.mpr topicOk) (isSegment_iff.mpr nameOk)]
      exact congrArg (fun root => Except.ok (joinPath (joinPath root topic) name)) rooted
    rw [openBlob, Action.on_lift_bind, Cell.on_load]
    dsimp only
    rw [Action.on_ofExcept_bind, leads]
    dsimp only
    rw [Action.on_lift_bind, World.on_files?, World.withFiles_files]
    cases files.find path with
    | ok entry => rfl
    | error fault =>
        by_cases missing : fault.kind = .notFound
        · simp [refusal, missing, Except.mapError]
        · simp [refusal, missing, Except.mapError, path]
  let answering (answer : Except IoFault FileEntry) :=
    Action.on (Action.ofExcept (answer.mapError refusal) >>= next) world
  refine ⟨fun answer => ((answering answer).1, (answering answer).2.withFiles .empty),
    fun files => ?_, serves, fun fault => ⟨_, rfl⟩⟩
  change _ = (((answering (files.find path)).1, (answering (files.find path)).2.withFiles .empty),
    files)
  rw [Action.filing_bind, Action.filing, opened]
  cases files.find path with
  | error fault => rfl
  | ok entry => exact (fileless entry).filing world files

theorem opens_checkOut (rooted : (place.read world.state).root = root)
    (topicOk : IsPlain topic) (nameOk : IsPlain name) :
    ((depot place).checkOut (.compose scheme topic name)).Opens world
      (joinPath (joinPath root topic) name) := by
  refine opens_openBlob_bind rooted topicOk nameOk (fun entry => ?_) fun content => ⟨content, rfl⟩
  cases entry <;> exact fun _ _ => rfl

theorem opens_checkOutStream (rooted : (place.read world.state).root = root)
    (topicOk : IsPlain topic) (nameOk : IsPlain name) :
    ((depot place).checkOutStream (.compose scheme topic name)).Opens world
      (joinPath (joinPath root topic) name) :=
  opens_openBlob_bind rooted topicOk nameOk (fun _ _ _ => rfl) fun _ => ⟨_, rfl⟩

/-- A bad reference is refused before any file is looked for. -/
theorem refuses_openBlob_bind {fault : Fault}
    (leads : (place.read world.state).blobPath reference = .error fault)
    (next : FileEntry → Action δ α) :
    (openBlob place reference >>= next).Refuses world fault := by
  intro files
  have sameLeads : (place.read (world.withFiles files).state).blobPath reference =
      .error fault := leads
  exact Action.on_bind_of_error (on_openBlob_of_error sameLeads) next

end CheckOuts

section CheckIns

/-- The paths of a topic: its directory, and what is directly in it. -/
def OfTopic (root topic path : String) : Prop :=
  path = joinPath root topic ∨ ∃ name, IsPlain name ∧ path = joinPath (joinPath root topic) name

/-- What is known when a directory was looked for: nothing but the one of the topic is given, and
names come from the same source as before. -/
structure Finds (names : Nat → String) (directory : String)
    (result : Except Fault String × World δ) : Prop where
  named : result.2.nameSource = names
  given : ∀ path, result.1 = .ok path → path = directory

theorem Finds.of_error {names : Nat → String} {directory : String} {fault : Fault}
    {result : Except Fault String × World δ} (named : result.2.nameSource = names)
    (failed : result.1 = .error fault) : Finds names directory result :=
  ⟨named, fun path given => by rw [failed] at given; cases given⟩

variable {opened : List FilePath}

theorem confined_findContainer (world : World δ)
    (rooted : (place.read world.state).root = root) :
    Confined (OfTopic root topic) opened (Finds world.nameSource (joinPath root topic))
      ((findContainer place topic).filing world) := by
  subst rooted
  let path := joinPath (place.read world.state).root topic
  have gives {rest : World δ} (named : rest.nameSource = world.nameSource) :
      Finds world.nameSource path ((.ok path, rest) : Except Fault String × World δ) :=
    ⟨named, fun given same => (Except.ok.inj same).symm⟩
  have loads (files : FileSystem) : Effect.on place.load (world.withFiles files) =
      ((Effect.on place.load world).1, (Effect.on place.load world).2.withFiles files) := rfl
  rw [findContainer, Action.filing_lift_bind loads, Cell.on_load]
  dsimp only
  refine Action.confined_isDirectory (fun files other same => ?_) (.inl rfl) fun files => ?_
  · rw [same]
  · split
    · exact Action.confined_of_fileless (fun _ _ => rfl) (gives rfl)
    · cases (place.read world.state).createsContainers with
      | false => exact Action.confined_of_fileless (fun _ _ => rfl) (.of_error rfl rfl)
      | true =>
          refine Action.confined_onFiles (.makeDirectories path) (.inl rfl) fun made => ?_
          cases made with
          | error fault => exact Action.confined_of_fileless (fun _ _ => rfl) (.of_error rfl rfl)
          | ok _ => exact Action.confined_of_fileless (fun _ _ => rfl) (gives rfl)

/-- Looking a container up asks for the directory of the topic, and makes it at most. -/
theorem confined_container (lawful : place.Lawful) (fits : (place.read world.state).Fits root) :
    Confined (OfTopic root topic) opened (Finds world.nameSource (joinPath root topic))
      ((container place topic).filing world) := by
  rw [container]
  cases isSegment topic with
  | false => exact Action.confined_of_fileless (fun _ _ => rfl) (.of_error rfl rfl)
  | true =>
      let slotted := ContainerCache.slotting (cacheCell place) topic world
      have rooted : (place.read slotted.state).root = root :=
        (root_slotting lawful topic world).trans fits.rooted
      change Confined _ _ _ (Action.filing
        (ContainerCache.getOrCreate (cacheCell place) topic (findContainer place topic)) world)
      cases filled : ((cacheCell place).read world.state).get? topic with
      | some handle =>
          have finds : (ContainerCache.getOrCreate (cacheCell place) topic
              (findContainer place topic)).filing world =
                fun files => ((.ok handle, slotted.withFiles .empty), files) := by
            funext files
            have same : ((cacheCell place).read (world.withFiles files).state).get? topic =
                some handle := filled
            rw [Action.filing, ContainerCache.on_getOrCreate_of_some (lawful_cacheCell lawful) same]
            rfl
          rw [finds]
          refine .done ⟨rfl, fun path given => ?_⟩
          rw [← Except.ok.inj given]
          exact fits.cache.fits filled
      | none =>
          have creates : (ContainerCache.getOrCreate (cacheCell place) topic
              (findContainer place topic)).filing world = (do
                let handle ← findContainer place topic
                Action.lift ((cacheCell place).update fun cache =>
                  cache.fill (((cacheCell place).read world.state).slot topic).1 handle)
                return handle : Action δ String).filing slotted := by
            funext files
            have same : ((cacheCell place).read (world.withFiles files).state).get? topic =
                none := filled
            rw [Action.filing, ContainerCache.on_getOrCreate_of_none (lawful_cacheCell lawful) same]
            rfl
          rw [creates]
          refine Action.confined_bind (confined_findContainer slotted rooted)
            (fun path rest found => ?_) fun fault rest found => .of_error found.named rfl
          exact Action.confined_of_fileless (fun _ _ => rfl) ⟨found.named, found.given⟩

/-- Writing goes to the file that was made, and keeps the names that are to come. -/
theorem confined_writeContent (call : CheckInCall) (made : FilePath) (inside : String → Prop)
    (world : World δ) :
    Confined inside (made :: opened) (fun _ => True)
      ((writeContent made call.content).filing world) := by
  have reads : Confined inside (made :: opened) (fun _ => True) (call.content.filing world) :=
    Action.confined_of_fileless call.fileless_content trivial
  refine Action.confined_bind reads (fun bytes rest _ => ?_) fun _ _ _ => trivial
  refine Action.confined_onFiles (.writeFile made bytes) (List.mem_cons_self ..) fun wrote => ?_
  cases wrote with
  | error fault => exact Action.confined_of_fileless (fun _ _ => rfl) trivial
  | ok _ =>
      refine Action.confined_onFiles .flushFile trivial fun flushed => ?_
      cases flushed with
      | error fault => exact Action.confined_of_fileless (fun _ _ => rfl) trivial
      | ok _ => exact Action.confined_of_fileless (fun _ _ => rfl) trivial

/-- A check-in goes to the directory of its topic and to the file of the next name in it. -/
theorem confined_checkIn (lawful : place.Lawful) (fits : (place.read world.state).Fits root)
    (identifiers : ∀ number, BlobName.IsIdentifier (world.nameSource number))
    (call : CheckInCall) :
    Confined (OfTopic root call.topic) opened (fun _ => True)
      ((call.on (depot place)).filing world) := by
  rw [on_eq_checkInContent, checkInContent]
  refine Action.confined_bind (confined_container lawful fits) (fun directory rest found => ?_)
    fun _ _ _ => trivial
  obtain ⟨named, given⟩ := found
  obtain rfl := given directory rfl
  have names (files : FileSystem) : Effect.on World.freshName (rest.withFiles files) =
      ((Effect.on World.freshName rest).1, (Effect.on World.freshName rest).2.withFiles files) :=
    rfl
  rw [Action.filing_lift_bind names, World.on_freshName]
  dsimp only
  have nameOk : IsPlain (rest.nameSource rest.namesIssued) := by
    have identifier := identifiers rest.namesIssued
    rw [← named] at identifier
    exact isSegment_iff.mp (isSegment_of_isIdentifier identifier)
  let path := joinPath (joinPath root call.topic) (rest.nameSource rest.namesIssued)
  refine Action.confined_onFiles (.createFile path) (.inr ⟨_, nameOk, rfl⟩) fun created => ?_
  cases created with
  | error fault => exact Action.confined_of_fileless (fun _ _ => rfl) trivial
  | ok made =>
      refine Action.confined_attempt_bind (confined_writeContent call made _ _)
        fun wrote last _ => ?_
      cases wrote with
      | error fault =>
          refine Action.confined_onFiles (.drop made) (List.mem_cons_self ..) fun _ => ?_
          exact Action.confined_of_fileless (fun _ _ => rfl) trivial
      | ok length => exact Action.confined_of_fileless (fun _ _ => rfl) trivial

/-- What lies outside of the directory of its topic stays as it is when a check-in is made below a
root that is a directory. -/
theorem entry?_checkIn (lawful : place.Lawful) (stands : place.Stands (Fits · root) names world)
    (rooted : Rooted world.files root base)
    (identifiers : ∀ number, BlobName.IsIdentifier (names number)) {path : FilePath}
    (outside : ¬ base ++ [call.topic] <+: path) :
    (Action.on (call.on (depot place)) world).2.files.entry? path = world.files.entry? path := by
  have furnishes := furnishes_container lawful rooted stands.fits.rooted call.topic
  have ending := ending_checkInContent place call.topic call.content world
  rw [on_eq_checkInContent]
  rcases ran : Action.on (checkInContent place call.topic call.content) world with
    ⟨outcome, after⟩
  rw [ran] at ending
  have opening {outcome : Except Fault String} {middle : World δ}
      (opened : Action.on (container place call.topic) world = (outcome, middle)) :
      middle.files.entry? path = world.files.entry? path := by
    rw [opened] at furnishes
    rcases furnishes path with same | ⟨-, -, rfl⟩
    · exact same
    · exact absurd List.prefix_rfl outside
  have within {directory : String} {middle : World δ} {spot : FilePath} {made : FileSystem}
      (opened : Action.on (container place call.topic) world = (.ok directory, middle))
      (created : middle.files.createFile
        (joinPath directory (middle.nameSource middle.namesIssued)) = (.ok spot, made)) :
      base ++ [call.topic] <+: spot ∧ spot ≠ [] ∧
        made.entry? path = world.files.entry? path := by
    obtain ⟨-, -, -, -, placed, -⟩ :=
      exists_of_createFile_ok lawful stands rooted identifiers opened created
    obtain ⟨-, noDirectory, entries⟩ := FileSystem.of_createFile_ok created
    have below : base ++ [call.topic] <+: spot := by
      rw [placed]
      exact ⟨[names world.namesIssued], by simp⟩
    refine ⟨below, FileSystem.ne_nil_of_noDirectory noDirectory, ?_⟩
    rw [entries, if_neg, opening opened]
    rintro rfl
    exact outside below
  cases ending with
  | unopened opened => exact opening opened
  | uncreated opened created =>
      exact (FileSystem.entry?_of_createFile_error created path).trans (opening opened)
  | unwritten opened created wrote =>
      obtain ⟨below, filled, kept⟩ := within opened created
      rw [FileSystem.entry?_drop filled, if_neg fun above => outside (below.trans above)]
      refine (entry?_writeContent filled ?_ wrote).trans kept
      rintro rfl
      exact outside below
  | written opened created wrote journal =>
      obtain ⟨below, filled, kept⟩ := within opened created
      refine (entry?_writeContent filled ?_ wrote).trans kept
      rintro rfl
      exact outside below

/-- A topic that is no plain name is refused before anything is done. -/
theorem refuses_checkIn (notPlain : ¬ IsPlain call.topic) :
    (call.on (depot place)).Refuses world (.contract (.containerName call.topic)) := by
  intro files
  have refused : Action.on (container place call.topic) (world.withFiles files) =
      (.error (.contract (.containerName call.topic)), world.withFiles files) := by
    rw [container, Bool.eq_false_iff.mpr (mt isSegment_iff.mp notPlain)]
    rfl
  rw [on_eq_checkInContent]
  exact Action.on_bind_of_error refused _

/-- A reference that is given is composed of the topic and the name of the payload. -/
theorem compose_of_checkIn_ok (lawful : place.Lawful)
    (stands : place.Stands (Fits · root) names world)
    (identifiers : ∀ number, BlobName.IsIdentifier (names number))
    (ran : Action.on (call.on (depot place)) world = (.ok reference, after)) :
    ∃ name, IsPlain call.topic ∧ IsPlain name ∧
      reference = .compose scheme call.topic name := by
  obtain ⟨-, supplies, given⟩ := on_container lawful stands.fits call.topic
  have ending := ending_checkInContent place call.topic call.content world
  rw [on_eq_checkInContent] at ran
  rw [ran] at ending
  cases ending with
  | written opened created wrote journal =>
      rename_i directory spot middle last made length
      rw [opened] at supplies given
      have sameNames : middle.nameSource = names :=
        (congrArg Prod.snd supplies).trans stands.named
      have identifier := identifiers middle.namesIssued
      rw [← sameNames] at identifier
      exact ⟨_, isSegment_iff.mp (given rfl).1,
        isSegment_iff.mp (isSegment_of_isIdentifier identifier), rfl⟩

end CheckIns

/-- No reference and no topic leads a depot out of its root. -/
structure Confines (place : Cell δ DirectoryDepot) (root : String) (world : World δ) : Prop where
  /-- Under a reference of the form of those that are issued, exactly its path is opened. -/
  checkOut : ∀ {topic name}, IsPlain topic → IsPlain name →
    ((depot place).checkOut ⟨"file://" ++ topic ++ "/" ++ name⟩).Opens world
      (joinPath (joinPath root topic) name)
  checkOutStream : ∀ {topic name}, IsPlain topic → IsPlain name →
    ((depot place).checkOutStream ⟨"file://" ++ topic ++ "/" ++ name⟩).Opens world
      (joinPath (joinPath root topic) name)
  /-- Every other reference is a bad one, and no file is touched. -/
  badReference : ∀ {reference : Reference},
    (∀ topic name, IsPlain topic → IsPlain name →
      reference.text ≠ "file://" ++ topic ++ "/" ++ name) →
        ((depot place).checkOut reference).Refuses world (.badReference reference.text) ∧
          ((depot place).checkOutStream reference).Refuses world (.badReference reference.text)
  /-- A check-in hands no path to the file system but those of its topic, whatever is answered. -/
  checkIn : ∀ call : CheckInCall, ∃ session, (call.on (depot place)).Performs world session ∧
    session.Within (OfTopic root call.topic) []
  /-- As long as the root is a directory, nothing changes outside of the directory of the topic. -/
  outside : ∀ (call : CheckInCall) {base}, Rooted world.files root base →
    ∀ {path}, ¬ base ++ [call.topic] <+: path →
      (Action.on (call.on (depot place)) world).2.files.entry? path = world.files.entry? path
  /-- A topic that is no plain name breaks the contract, and neither a file is touched nor the
  payload read. -/
  badTopic : ∀ call : CheckInCall, ¬ IsPlain call.topic →
    (call.on (depot place)).Refuses world (.contract (.containerName call.topic))
  /-- Every reference that is issued is of the form that is accepted. -/
  issued : ∀ (call : CheckInCall) {reference after},
    Action.on (call.on (depot place)) world = (.ok reference, after) →
      ∃ name, IsPlain call.topic ∧ IsPlain name ∧
        reference.text = "file://" ++ call.topic ++ "/" ++ name

/-- After every run, whatever the files, a depot stays below the root that it was made for. -/
theorem confines_of_leads {creates : Bool} (lawful : place.Lawful)
    (new : place.read start.state = { root := root, createsContainers := creates })
    (identifiers : ∀ number, BlobName.IsIdentifier (start.nameSource number))
    (leads : (depot place).Leads place start world) : Confines place root world := by
  have stands := leads.stands (.of_held_eq (Prod.ext new rfl) (fits_initial root creates))
    fun step stands => stands_step lawful stands step
  have named : ∀ number, BlobName.IsIdentifier (world.nameSource number) := by
    rw [stands.named]
    exact identifiers
  constructor
  · exact fun topicOk nameOk => opens_checkOut stands.fits.rooted topicOk nameOk
  · exact fun topicOk nameOk => opens_checkOutStream stands.fits.rooted topicOk nameOk
  · intro reference strange
    rcases blobPath_cases (place.read world.state) reference with
      ⟨topic, name, topicOk, nameOk, rfl⟩ | bad
    · exact absurd rfl (strange topic name topicOk nameOk)
    · exact ⟨refuses_openBlob_bind bad _, refuses_openBlob_bind bad _⟩
  · intro call
    have confined : Confined (OfTopic root call.topic) [] (fun _ => True)
        ((call.on (depot place)).filing world) := confined_checkIn lawful stands.fits named call
    obtain ⟨session, performs, within, -⟩ := confined
    exact ⟨session, performs, within⟩
  · exact fun call base rooted path outside =>
      entry?_checkIn lawful stands rooted identifiers outside
  · exact fun call notPlain => refuses_checkIn notPlain
  · intro call reference after ran
    obtain ⟨name, topicOk, nameOk, rfl⟩ := compose_of_checkIn_ok lawful stands identifiers ran
    exact ⟨name, topicOk, nameOk, rfl⟩

/-- A depot that was closed stays below its root, and a reference to what lies above is refused. -/
theorem confines_afterClose :
    let closed := (Effect.on (depot .whole).close inOneDirectory).2
    Confines .whole "root" closed ∧
      ((depot .whole).checkOut ⟨"file://../etc"⟩).Refuses closed
        (.badReference "file://../etc") := by
  intro closed
  have leads : (depot .whole).Leads .whole inOneDirectory closed := .single .close
  have new : Cell.whole.read inOneDirectory.state =
      { root := "root", createsContainers := true } := rfl
  have confines : Confines .whole "root" closed :=
    confines_of_leads Cell.lawful_whole new (BlobName.isIdentifier_ofNumber 0) leads
  refine ⟨confines, (confines.badReference fun topic name topicOk nameOk same => ?_).1⟩
  let anywhere : DirectoryDepot := { root := "root" }
  have leads := blobPath_compose anywhere (isSegment_iff.mpr topicOk) (isSegment_iff.mpr nameOk)
  have above : anywhere.blobPath ⟨"file://../etc"⟩ = .error (.badReference "file://../etc") := by
    decide +kernel
  rw [Reference.compose, scheme, ← same, above] at leads
  cases leads

end DirectoryDepot

end PayloadDepot
