import PayloadDepot.Proofs.Storage.Directory.CheckIn

/-!
# Faithful runs of file system depots

A run of a file system depot is told by the references that it gave and what was
checked in for them.  Whatever call fails, be it for its topic, its container,
its stream or a refusal of the file system, the files below the root are those
of the references that were given before, so each of them is redeemed ever
after.
-/

namespace PayloadDepot

variable {δ : Type}

namespace DirectoryDepot

open FileSystem (joinPath)

variable {place : Cell δ DirectoryDepot} {world after start : World δ} {root : String}
  {base : FilePath} {names : Nat → String} {issues : List Issue}

/-- Others left the depot and what is below its root alone, and took no name back. -/
structure Spared (place : Cell δ DirectoryDepot) (root : String) (base : FilePath)
    (before after : World δ) : Prop where
  held : place.held after = place.held before
  issued : before.namesIssued ≤ after.namesIssued
  leads : after.files.resolve root = before.files.resolve root
  below : ∀ {path}, base <+: path → after.files.entry? path = before.files.entry? path

/-- A run of calls of a depot one after the other, in which others spare the depot between the
calls, with the references that were given and what was checked in for them. -/
inductive Course (place : Cell δ DirectoryDepot) (root : String) (base : FilePath)
    (start : World δ) : List Issue → World δ → Prop
  | start : Course place root base start [] start
  | issued {issues : List Issue} {world after : World δ} {reference : Reference}
      (course : Course place root base start issues world) (call : CheckInCall)
      (ran : Action.on (call.on (depot place)) world = (.ok reference, after)) :
      Course place root base start (issues ++ [⟨reference, call.payload world⟩]) after
  | failed {issues : List Issue} {world after : World δ} {fault : Fault}
      (course : Course place root base start issues world) (call : CheckInCall)
      (ran : Action.on (call.on (depot place)) world = (.error fault, after)) :
      Course place root base start issues after
  | checkOut {issues : List Issue} {world : World δ}
      (course : Course place root base start issues world) (reference : Reference) :
      Course place root base start issues
        (Action.on ((depot place).checkOut reference) world).2
  | checkOutStream {issues : List Issue} {world : World δ}
      (course : Course place root base start issues world) (reference : Reference) :
      Course place root base start issues
        (Action.on ((depot place).checkOutStream reference) world).2
  | close {issues : List Issue} {world : World δ}
      (course : Course place root base start issues world) :
      Course place root base start issues (Effect.on (depot place).close world).2
  | elsewhere {issues : List Issue} {world after : World δ}
      (course : Course place root base start issues world)
      (spared : Spared place root base world after) : Course place root base start issues after

namespace Course

variable {place : Cell δ DirectoryDepot} {start world : World δ} {root : String}
  {base : FilePath} {issues : List Issue}

/-- The run with a call that gives a reference. -/
theorem giving (course : Course place root base start issues world) (call : CheckInCall)
    (reference : Reference)
    (gives : (Action.on (call.on (depot place)) world).1 = .ok reference) :
    Course place root base start (issues ++ [⟨reference, call.payload world⟩])
      (Action.on (call.on (depot place)) world).2 :=
  course.issued call (Prod.ext gives rfl)

/-- The run with a call that fails. -/
theorem failing (course : Course place root base start issues world) (call : CheckInCall)
    (fault : Fault) (fails : (Action.on (call.on (depot place)) world).1 = .error fault) :
    Course place root base start issues (Action.on (call.on (depot place)) world).2 :=
  course.failed call (Prod.ext fails rfl)

end Course

/-- A new depot over a directory that has no file below it. -/
structure New (place : Cell δ DirectoryDepot) (root : String) (base : FilePath)
    (start : World δ) : Prop where
  depot : ∃ creates, place.read start.state = { root := root, createsContainers := creates }
  rooted : Rooted start.files root base
  noFile : ∀ {path content}, base <+: path → start.files.entry? path ≠ some (.file content)

/-- The file that a reference leads to. -/
def LeadsTo (place : Cell δ DirectoryDepot) (world : World δ) (reference : Reference)
    (path : FilePath) : Prop :=
  ∃ text, (place.read world.state).blobPath reference = .ok text ∧
    world.files.resolve text = .ok path

/-- What is kept of a run: the files below the root are those of the references that were given, and
a call that fails leaves them as they are. -/
structure Faithful (place : Cell δ DirectoryDepot) (base : FilePath) (issues : List Issue)
    (world : World δ) : Prop where
  /-- No reference was given twice. -/
  apart : issues.Pairwise fun first second => first.reference ≠ second.reference
  /-- Every reference leads to a file below the root that holds what was checked in for it. -/
  holds : ∀ issue ∈ issues, ∃ path, base <+: path ∧ LeadsTo place world issue.reference path ∧
    world.files.entry? path = some (.file issue.payload)
  /-- There is no other file below the root. -/
  nothingElse : ∀ {path content}, base <+: path →
    world.files.entry? path = some (.file content) →
      ∃ issue ∈ issues, LeadsTo place world issue.reference path ∧ content = issue.payload
  /-- Every reference is redeemed, at once and as a stream. -/
  redeems : ∀ issue ∈ issues, (depot place).Redeems issue.reference issue.payload world
  /-- A reference is only given for the whole of what a call declares. -/
  whole : ∀ (call : CheckInCall) {reference after},
    Action.on (call.on (depot place)) world = (.ok reference, after) →
      (call.payload world).size = call.length
  /-- A check-in that fails leaves no file of its own and changes no other one. -/
  failed : ∀ (call : CheckInCall) {fault after},
    Action.on (call.on (depot place)) world = (.error fault, after) →
      ∀ path content, base <+: path → (after.files.entry? path = some (.file content) ↔
        world.files.entry? path = some (.file content))
  /-- The other calls leave all files alone. -/
  checkOut : ∀ reference, (Action.on ((depot place).checkOut reference) world).2.files = world.files
  checkOutStream : ∀ reference,
    (Action.on ((depot place).checkOutStream reference) world).2.files = world.files
  close : (Effect.on (depot place).close world).2.files = world.files

section Runs

variable (place) in
theorem leaves_checkOut {ρ : Type} (observe : World δ → ρ) (reference : Reference) :
    ((depot place).checkOut reference).Leaves observe := by
  refine .bind (leaves_openBlob observe reference) fun entry => ?_
  cases entry with
  | file content => exact .pure content
  | directory => exact .fail _

variable (place) in
/-- A stream that was handed out is a reader more, and nothing else. -/
theorem unread_checkOutStream (reference : Reference) :
    ((depot place).checkOutStream reference).Leaves World.unread :=
  .bind (leaves_openBlob _ reference) fun _ => .lift fun _ => rfl

variable (place) in
/-- Closing changes what depots keep and the journal. -/
theorem leaves_close {ρ : Type} (observe : World δ → ρ)
    (apart : ∀ (world : World δ) state journal,
      observe { world with state := state, journal := journal } = observe world) :
    Effect.Leaves observe (depot place).close := by
  intro world
  change observe (Effect.on (close place) world).2 = observe world
  rw [close, Effect.on_bind, Cell.on_updateGet]
  dsimp only
  cases (place.read world.state).closed <;> exact apart world _ _

/-- The step of a run as one of the calls of a depot, or of others. -/
theorem stands_of_course (lawful : place.Lawful)
    (first : place.Stands (Fits · root) names start)
    (course : Course place root base start issues world) :
    place.Stands (Fits · root) names world := by
  have called {world : World δ} (stands : place.Stands (Fits · root) names world)
      (call : CheckInCall) :
      place.Stands (Fits · root) names (Action.on (call.on (depot place)) world).2 := by
    cases call with
    | whole topic payload => exact stands_step lawful stands (.checkIn topic payload)
    | stream topic source length =>
        exact stands_step lawful stands (.checkInStream topic source length)
  induction course with
  | start => exact first
  | issued course call ran inductionHypothesis =>
      have stands := called inductionHypothesis call
      rwa [ran] at stands
  | failed course call ran inductionHypothesis =>
      have stands := called inductionHypothesis call
      rwa [ran] at stands
  | checkOut course reference inductionHypothesis =>
      exact stands_step lawful inductionHypothesis (.checkOut reference)
  | checkOutStream course reference inductionHypothesis =>
      exact stands_step lawful inductionHypothesis (.checkOutStream reference)
  | close course inductionHypothesis => exact stands_step lawful inductionHypothesis .close
  | elsewhere course spared inductionHypothesis =>
      exact stands_step lawful inductionHypothesis (.elsewhere spared.held)

theorem New.stands (new : New place root base start) :
    place.Stands (Fits · root) start.nameSource start := by
  obtain ⟨creates, read⟩ := new.depot
  exact .of_held_eq (Prod.ext read rfl) (fits_initial root creates)

/-- What is below the root stays as it is as long as others spare it. -/
theorem Keeps.elsewhere (keeps : Keeps world.files root base names world.namesIssued issues)
    (spared : Spared place root base world after) :
    Keeps after.files root base names after.namesIssued issues := by
  refine keeps.change ⟨?_, ?_⟩ spared.issued (fun topic => ?_) fun {path content} below => ?_
  · exact spared.leads.trans keeps.rooted.leads
  · exact (spared.below List.prefix_rfl).trans keeps.rooted.directory
  · rw [spared.below (List.prefix_append _ _)]
    exact id
  · rw [spared.below below]

/-- After every run the files below the root are those of the references that were given. -/
theorem keeps_of_course (lawful : place.Lawful) (new : New place root base start)
    (identifiers : ∀ number, BlobName.IsIdentifier (start.nameSource number))
    (course : Course place root base start issues world)
    (apart : Apart start.nameSource world.namesIssued) :
    Keeps world.files root base start.nameSource world.namesIssued issues := by
  have earlier {first later : Nat} (apart : Apart start.nameSource later) (before : first ≤ later) :
      Apart start.nameSource first := fun left right leftLt rightLt =>
    apart left right (Nat.lt_of_lt_of_le leftLt before) (Nat.lt_of_lt_of_le rightLt before)
  induction course with
  | start => exact keeps_nil new.rooted new.noFile
  | issued course call ran inductionHypothesis =>
      have more := (namesIssued_checkIn lawful ran).1
      exact (keeps_of_ok lawful (stands_of_course lawful new.stands course)
        (inductionHypothesis (earlier apart more)) identifiers apart ran).1
  | failed course call ran inductionHypothesis =>
      have more := (namesIssued_checkIn lawful ran).1
      exact keeps_of_error lawful (stands_of_course lawful new.stands course)
        (inductionHypothesis (earlier apart more)) identifiers apart ran
  | checkOut course reference inductionHypothesis =>
      rename_i world
      have files := leaves_checkOut place World.files reference world
      have issued := leaves_checkOut place World.namesIssued reference world
      rw [issued] at apart ⊢
      rw [files]
      exact inductionHypothesis apart
  | checkOutStream course reference inductionHypothesis =>
      rename_i world
      have files := (unread_checkOutStream place reference).map World.files world
      have issued := (unread_checkOutStream place reference).map World.namesIssued world
      dsimp only [World.unread, World.withReaders] at files issued
      rw [issued] at apart ⊢
      rw [files]
      exact inductionHypothesis apart
  | close course inductionHypothesis =>
      rename_i world
      have files := leaves_close place World.files (fun _ _ _ => rfl) world
      have issued := leaves_close place World.namesIssued (fun _ _ _ => rfl) world
      rw [issued] at apart ⊢
      rw [files]
      exact inductionHypothesis apart
  | elsewhere course spared inductionHypothesis =>
      exact (inductionHypothesis (earlier apart spared.issued)).elsewhere spared

end Runs

theorem Lies.leadsTo {topic name : String} {issue : Issue}
    (fits : (place.read world.state).Fits root) (rooted : Rooted world.files root base)
    (lies : Lies world.files root base topic name issue) :
    LeadsTo place world issue.reference (base ++ [topic, name]) := by
  refine ⟨joinPath (joinPath root topic) name, ?_, lies.resolve rooted⟩
  rw [lies.reference, blobPath_compose _ (isSegment_iff.mpr lies.topicOk)
    (isSegment_iff.mpr lies.nameOk), fits.rooted]

/-- Every run of a depot is faithful as long as no name of a payload is repeated, whichever of its
calls fail. -/
theorem faithful_of_course (lawful : place.Lawful) (new : New place root base start)
    (identifiers : ∀ number, BlobName.IsIdentifier (start.nameSource number))
    (course : Course place root base start issues world)
    (apart : Apart start.nameSource (world.namesIssued + 1)) :
    Faithful place base issues world := by
  have earlier {bound : Nat} (before : bound ≤ world.namesIssued + 1) :
      Apart start.nameSource bound := fun left right leftLt rightLt =>
    apart left right (Nat.lt_of_lt_of_le leftLt before) (Nat.lt_of_lt_of_le rightLt before)
  have stands := stands_of_course lawful new.stands course
  have keeps := keeps_of_course lawful new identifiers course (earlier (Nat.le_succ _))
  constructor
  · exact keeps.apart
  · intro issue mem
    obtain ⟨topic, number, -, lies⟩ := keeps.lies issue mem
    exact ⟨_, List.prefix_append _ _, lies.leadsTo stands.fits keeps.rooted, lies.file⟩
  · intro path content below found
    obtain ⟨issue, mem, topic, number, -, lies, rfl⟩ := keeps.nothingElse below found
    refine ⟨issue, mem, lies.leadsTo stands.fits keeps.rooted, ?_⟩
    rw [lies.file] at found
    cases found
    rfl
  · intro issue mem
    obtain ⟨topic, number, -, lies⟩ := keeps.lies issue mem
    refine redeems_of_find ?_ (lies.find keeps.rooted)
    rw [lies.reference, blobPath_compose _ (isSegment_iff.mpr lies.topicOk)
      (isSegment_iff.mpr lies.nameOk), stands.fits.rooted]
  · intro call reference after ran
    have few := (namesIssued_checkIn lawful ran).2
    exact (keeps_of_ok lawful stands keeps identifiers (earlier few) ran).2
  · intro call fault after ran path content below
    have few := (namesIssued_checkIn lawful ran).2
    have kept := keeps_of_error lawful stands keeps identifiers (earlier few) ran
    exact ⟨kept.file_of_keeps keeps below, keeps.file_of_keeps kept below⟩
  · exact fun reference => leaves_checkOut place World.files reference world
  · exact fun reference => (unread_checkOutStream place reference).map World.files world
  · exact leaves_close place World.files (fun _ _ _ => rfl) world

/-- A new depot below a directory that exists, beside a stream of four bytes and on a file system
that refuses a writing and a flushing. -/
def onRefusingFiles : World DirectoryDepot :=
  { World.initial 0 ⟨[(["root"], .directory)],
      [none, none, none, some ⟨.other, "No space left", []⟩, none, none,
        some ⟨.other, "No space left", []⟩]⟩
      { root := "root", createsContainers := true } with
    readers := #[⟨[.chunk "four".toUTF8]⟩] }

theorem new_onRefusingFiles : New .whole "root" ["root"] onRefusingFiles where
  depot := ⟨true, rfl⟩
  rooted := ⟨by decide +kernel, by decide +kernel⟩
  noFile {path content} below := by
    obtain ⟨rest, rfl⟩ := below
    cases rest <;> simp [onRefusingFiles, World.initial, FileSystem.entry?, List.lookup_cons]

/-- The world after calls that check payloads in. -/
def afterCalls (start : World DirectoryDepot) (calls : List CheckInCall) : World DirectoryDepot :=
  calls.foldl (fun world call => (Action.on (call.on (depot .whole)) world).2) start

/-- A stream that is too short, a writing and a flushing that are refused and a topic that is no
component leave nothing behind, and the one payload that is checked in after a closing is all that
there is. -/
theorem faithful_afterFailures :
    let failures : List CheckInCall := [.stream "orders" ⟨0⟩ 7, .whole "orders" "four".toUTF8,
      .whole "orders" "four".toUTF8, .whole ".." "four".toUTF8]
    let closed := (Effect.on (depot .whole).close (afterCalls onRefusingFiles failures)).2
    Faithful .whole ["root"]
      [⟨⟨"file://orders/00000000-0000-4000-8000-000000000003"⟩, "five".toUTF8⟩]
      (afterCalls closed [.whole "orders" "five".toUTF8]) := by
  intro failures closed
  let full : Fault := .io ⟨.other, "No space left", []⟩
  have none : Course .whole "root" ["root"] onRefusingFiles [] onRefusingFiles := .start
  have afterShort := none.failing (.stream "orders" ⟨0⟩ 7) (.contract (.streamShort 4 7))
    (by decide +kernel)
  have afterWriting := afterShort.failing (.whole "orders" "four".toUTF8) full (by decide +kernel)
  have afterFlushing := afterWriting.failing (.whole "orders" "four".toUTF8) full
    (by decide +kernel)
  have afterTopic := afterFlushing.failing (.whole ".." "four".toUTF8)
    (.contract (.containerName "..")) (by decide +kernel)
  have course := afterTopic.close.giving (.whole "orders" "five".toUTF8)
    ⟨"file://orders/00000000-0000-4000-8000-000000000003"⟩ (by decide +kernel)
  have few : (afterCalls closed [.whole "orders" "five".toUTF8]).namesIssued = 4 := by
    decide +kernel
  refine faithful_of_course Cell.lawful_whole new_onRefusingFiles
    (BlobName.isIdentifier_ofNumber 0) course fun earlier later earlierLt laterLt same => ?_
  rw [few] at earlierLt laterLt
  exact BlobName.ofNumber_injective (by omega) (by omega) same

end DirectoryDepot

end PayloadDepot
