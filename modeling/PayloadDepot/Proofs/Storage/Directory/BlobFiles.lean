import PayloadDepot.Proofs.Host.Directories
import PayloadDepot.Proofs.Storage.DirectoryRuns

/-!
# Files of payloads below a root

A file system depot has one file below its root for every reference that it
gave, and no other file.  Files of payloads all lie two steps below the root, so
the file of a name that was not used yet is apart from all of them, and so is
whatever lies below it.
-/

namespace PayloadDepot

namespace DirectoryDepot

open FileSystem (joinPath IsPlain Short)

theorem isSegment_iff {name : String} : isSegment name = true ↔ IsPlain name := by
  simp only [isSegment, Bool.and_eq_true, decide_eq_true_eq, List.all_eq_true]
  constructor
  · rintro ⟨⟨⟨filled, notHere⟩, notAbove⟩, letters⟩
    exact ⟨filled, notHere, notAbove, fun mem => (letters _ mem).1.1 rfl,
      fun mem => (letters _ mem).1.2 rfl, fun mem => (letters _ mem).2 rfl⟩
  · rintro ⟨filled, notHere, notAbove, noSlash, noBackslash, noNul⟩
    refine ⟨⟨⟨filled, notHere⟩, notAbove⟩, fun character mem => ⟨⟨?_, ?_⟩, ?_⟩⟩ <;> rintro rfl
    · exact noSlash mem
    · exact noBackslash mem
    · exact noNul mem

/-- A reference that was given, and what was checked in for it. -/
structure Issue where
  reference : Reference
  payload : ByteArray

variable {files later : FileSystem} {root : String} {base : FilePath} {names : Nat → String}
  {issued issuedLater number : Nat} {issues : List Issue} {issue : Issue} {topic name : String}

/-- The root of a depot leads to a directory. -/
structure Rooted (files : FileSystem) (root : String) (base : FilePath) : Prop where
  leads : files.resolve root = .ok base
  directory : files.entry? base = some .directory

theorem Rooted.filled (rooted : Rooted files root base) : root ≠ "" :=
  (FileSystem.resolve_iff.mp rooted.leads).2.1

theorem joinPath_ne_empty (rooted : Rooted files root base) (topic : String) :
    joinPath root topic ≠ "" := by
  intro empty
  have size := FileSystem.utf8ByteSize_le_joinPath root topic
  rw [empty] at size
  exact rooted.filled (String.utf8ByteSize_eq_zero_iff.mp (Nat.le_zero.mp size))

/-- The path of a payload leads into the directory of its topic, if that one is there and the path
is not too long. -/
theorem Rooted.resolve_iff (rooted : Rooted files root base) (topicOk : IsPlain topic)
    (nameOk : IsPlain name) {path : FilePath} :
    files.resolve (joinPath (joinPath root topic) name) = .ok path ↔
      files.entry? (base ++ [topic]) = some .directory ∧ Short root topic ∧
        Short (joinPath root topic) name ∧ path = base ++ [topic, name] := by
  rw [FileSystem.resolve_joinPath_iff (joinPath_ne_empty rooted topic) nameOk]
  constructor
  · rintro ⟨container, resolved, isDirectory, short, rfl⟩
    obtain ⟨above, led, -, shortTopic, rfl⟩ :=
      (FileSystem.resolve_joinPath_iff rooted.filled topicOk).mp resolved
    rw [rooted.leads] at led
    cases led
    exact ⟨isDirectory, shortTopic, short, by simp⟩
  · rintro ⟨isDirectory, shortTopic, short, rfl⟩
    refine ⟨base ++ [topic], ?_, isDirectory, short, by simp⟩
    exact (FileSystem.resolve_joinPath_iff rooted.filled topicOk).mpr
      ⟨base, rooted.leads, rooted.directory, shortTopic, rfl⟩

/-- A reference is put together from one topic and one name only. -/
theorem compose_inj {otherTopic otherName : String} (topicOk : IsPlain topic)
    (nameOk : IsPlain name) (otherTopicOk : IsPlain otherTopic) (otherNameOk : IsPlain otherName)
    (same : Reference.compose scheme topic name = .compose scheme otherTopic otherName) :
    topic = otherTopic ∧ name = otherName := by
  have component {name : String} (plain : IsPlain name) : Text.IsComponent name :=
    isComponent_of_isSegment (isSegment_iff.mpr plain)
  have located := congrArg (Reference.locate scheme) same
  rw [Reference.locate_compose scheme (component topicOk) (component nameOk),
    Reference.locate_compose scheme (component otherTopicOk) (component otherNameOk)] at located
  rwa [Except.ok.injEq, Prod.mk.injEq] at located

/-- The file of a payload lies where its reference leads to. -/
structure Lies (files : FileSystem) (root : String) (base : FilePath) (topic name : String)
    (issue : Issue) : Prop where
  topicOk : IsPlain topic
  nameOk : IsPlain name
  reference : issue.reference = .compose scheme topic name
  short : Short root topic
  shortName : Short (joinPath root topic) name
  container : files.entry? (base ++ [topic]) = some .directory
  file : files.entry? (base ++ [topic, name]) = some (.file issue.payload)

theorem Lies.resolve (lies : Lies files root base topic name issue)
    (rooted : Rooted files root base) :
    files.resolve (joinPath (joinPath root topic) name) = .ok (base ++ [topic, name]) :=
  (rooted.resolve_iff lies.topicOk lies.nameOk).mpr
    ⟨lies.container, lies.short, lies.shortName, rfl⟩

theorem Lies.find (lies : Lies files root base topic name issue)
    (rooted : Rooted files root base) :
    files.find (joinPath (joinPath root topic) name) = .ok (.file issue.payload) := by
  rw [FileSystem.find, lies.resolve rooted]
  simp [lies.file]

/-- The names that a source gives first are different ones. -/
def Apart (names : Nat → String) (bound : Nat) : Prop :=
  ∀ first second, first < bound → second < bound → names first = names second → first = second

theorem Apart.last (apart : Apart names (issued + 1)) {earlier : Nat} (before : earlier < issued) :
    names earlier ≠ names issued := by
  intro same
  have := apart earlier issued (Nat.lt_succ_of_lt before) (Nat.lt_succ_self issued) same
  omega

/-- The files below a root are those of the references that were given, with what was checked in for
them, and payloads were named in the order of a source. -/
structure Keeps (files : FileSystem) (root : String) (base : FilePath) (names : Nat → String)
    (issued : Nat) (issues : List Issue) : Prop where
  rooted : Rooted files root base
  lies : ∀ issue ∈ issues, ∃ topic number, number < issued ∧
    Lies files root base topic (names number) issue
  nothingElse : ∀ {path content}, base <+: path → files.entry? path = some (.file content) →
    ∃ issue ∈ issues, ∃ topic number, number < issued ∧
      Lies files root base topic (names number) issue ∧ path = base ++ [topic, names number]
  apart : issues.Pairwise fun first second => first.reference ≠ second.reference

theorem keeps_nil (rooted : Rooted files root base)
    (noFile : ∀ {path content}, base <+: path → files.entry? path ≠ some (.file content)) :
    Keeps files root base names issued [] where
  rooted := rooted
  lies := nofun
  nothingElse below found := absurd found (noFile below)
  apart := .nil

namespace Keeps

/-- As long as the containers stay, and no file below the root comes, goes or changes, the files are
those of the same references. -/
theorem change (keeps : Keeps files root base names issued issues)
    (rooted : Rooted later root base) (more : issued ≤ issuedLater)
    (containers : ∀ topic, files.entry? (base ++ [topic]) = some .directory →
      later.entry? (base ++ [topic]) = some .directory)
    (same : ∀ {path content}, base <+: path →
      (later.entry? path = some (.file content) ↔ files.entry? path = some (.file content))) :
    Keeps later root base names issuedLater issues where
  rooted := rooted
  lies issue mem := by
    obtain ⟨topic, number, earlier, lies⟩ := keeps.lies issue mem
    exact ⟨topic, number, Nat.lt_of_lt_of_le earlier more, { lies with
      container := containers topic lies.container
      file := (same (List.prefix_append _ _)).mpr lies.file }⟩
  nothingElse {path content} below found := by
    obtain ⟨issue, mem, topic, number, earlier, lies, rfl⟩ :=
      keeps.nothingElse below ((same below).mp found)
    exact ⟨issue, mem, topic, number, Nat.lt_of_lt_of_le earlier more, { lies with
      container := containers topic lies.container
      file := (same (List.prefix_append _ _)).mpr lies.file }, rfl⟩
  apart := keeps.apart

theorem furnish {spots : FilePath → Prop} (keeps : Keeps files root base names issued issues)
    (furnishes : later.Furnishes files spots) (more : issued ≤ issuedLater) :
    Keeps later root base names issuedLater issues :=
  keeps.change ⟨furnishes.resolve keeps.rooted.leads, furnishes.kept keeps.rooted.directory⟩
    more (fun _ => furnishes.kept) fun _ => furnishes.file_iff

/-- Where the file of the next payload comes there is no file yet, and none below. -/
theorem noFile (keeps : Keeps files root base names issued issues)
    (apart : Apart names (issued + 1)) {path : FilePath}
    (below : base ++ [topic, names issued] <+: path) (content : ByteArray) :
    files.entry? path ≠ some (.file content) := by
  intro found
  obtain ⟨issue, -, other, number, earlier, -, rfl⟩ :=
    keeps.nothingElse ((List.prefix_append _ _).trans below) found
  have same := (List.prefix_append_right_inj base).mp below
  have whole := same.eq_of_length rfl
  simp only [List.cons.injEq, and_true] at whole
  exact apart.last earlier whole.2.symm

/-- A check-in that fails after it made its file, and removes the file again, leaves the files as
they were. -/
theorem discard (keeps : Keeps files root base names issued issues)
    (apart : Apart names (issued + 1))
    (noDirectory : files.entry? (base ++ [topic, names issued]) ≠ some .directory)
    (entries : ∀ path, later.entry? path =
      if base ++ [topic, names issued] <+: path then none else files.entry? path) :
    Keeps later root base names (issued + 1) issues := by
  have stays (short : FilePath) (few : short.length < 2) :
      later.entry? (base ++ short) = files.entry? (base ++ short) := by
    rw [entries, if_neg]
    intro below
    have length := below.length_le
    simp only [List.length_append, List.length_cons, List.length_nil] at length
    omega
  refine keeps.change ⟨?_, ?_⟩ (Nat.le_succ _) (fun topic => ?_) fun {path content} below => ?_
  · refine FileSystem.resolve_of_outside noDirectory (fun outside found => ?_) keeps.rooted.leads
    rw [entries, if_neg outside]
    exact found
  · have here := stays [] (by simp)
    rw [List.append_nil] at here
    exact here.trans keeps.rooted.directory
  · rw [stays [topic] (by simp)]
    exact id
  · rw [entries]
    split
    · next inside => simp [keeps.noFile apart inside content]
    · exact Iff.rfl

/-- Different names are told apart by the references that they are put into. -/
theorem reference_ne (keeps : Keeps files root base names issued issues)
    (apart : Apart names (issued + 1))
    (topicOk : IsPlain topic) (nameOk : IsPlain (names issued)) {given : Issue}
    (mem : given ∈ issues) : given.reference ≠ .compose scheme topic (names issued) := by
  intro same
  obtain ⟨other, number, earlier, lies⟩ := keeps.lies given mem
  rw [lies.reference] at same
  exact apart.last earlier (compose_inj lies.topicOk lies.nameOk topicOk nameOk same).2

/-- A check-in that gives a reference adds the file of its payload. -/
theorem add (keeps : Keeps files root base names issued issues)
    (apart : Apart names (issued + 1))
    (topicOk : IsPlain topic) (nameOk : IsPlain (names issued)) {payload : ByteArray}
    (resolved : files.resolve (joinPath (joinPath root topic) (names issued)) =
      .ok (base ++ [topic, names issued]))
    (noDirectory : files.entry? (base ++ [topic, names issued]) ≠ some .directory)
    (entries : ∀ path, later.entry? path =
      if path = base ++ [topic, names issued] then some (.file payload)
      else files.entry? path) :
    Keeps later root base names (issued + 1)
      (issues ++ [⟨.compose scheme topic (names issued), payload⟩]) := by
  have kept {path : FilePath} {entry : FileEntry} (found : files.entry? path = some entry) :
      later.entry? path = some entry := by
    rw [entries, if_neg]
    · exact found
    · rintro rfl
      cases entry with
      | directory => exact noDirectory found
      | file content => exact keeps.noFile apart List.prefix_rfl content found
  have agree : FileSystem.AgreeBut later files (base ++ [topic, names issued]) :=
    ⟨noDirectory, fun different => (entries _).trans (if_neg different)⟩
  have moved {given : Issue} {other name : String} (lies : Lies files root base other name given) :
      Lies later root base other name given :=
    { lies with container := kept lies.container, file := kept lies.file }
  obtain ⟨container, short, shortName, -⟩ := (keeps.rooted.resolve_iff topicOk nameOk).mp resolved
  have new : Lies later root base topic (names issued)
      ⟨.compose scheme topic (names issued), payload⟩ :=
    ⟨topicOk, nameOk, rfl, short, shortName, kept container, by rw [entries, if_pos rfl]⟩
  constructor
  · exact ⟨agree.resolve keeps.rooted.leads, kept keeps.rooted.directory⟩
  · intro given mem
    rcases List.mem_append.mp mem with old | last
    · obtain ⟨other, number, earlier, lies⟩ := keeps.lies given old
      exact ⟨other, number, Nat.lt_succ_of_lt earlier, moved lies⟩
    · obtain rfl := List.mem_singleton.mp last
      exact ⟨topic, issued, Nat.lt_succ_self issued, new⟩
  · intro path content below found
    rw [entries] at found
    split at found
    · next here =>
      subst here
      exact ⟨_, by simp, topic, issued, Nat.lt_succ_self issued, new, rfl⟩
    · obtain ⟨given, mem, other, number, earlier, lies, rfl⟩ := keeps.nothingElse below found
      exact ⟨given, List.mem_append_left _ mem, other, number, Nat.lt_succ_of_lt earlier,
        moved lies, rfl⟩
  · refine List.pairwise_append.mpr ⟨keeps.apart, List.pairwise_singleton _ _, ?_⟩
    intro given mem last isLast
    obtain rfl := List.mem_singleton.mp isLast
    exact keeps.reference_ne apart topicOk nameOk mem

/-- Two trees with the files of the same references have the same files. -/
theorem file_of_keeps (keeps : Keeps files root base names issued issues)
    (keepsLater : Keeps later root base names issuedLater issues) {path : FilePath}
    {content : ByteArray} (below : base <+: path)
    (found : files.entry? path = some (.file content)) :
    later.entry? path = some (.file content) := by
  obtain ⟨given, mem, topic, number, -, lies, rfl⟩ := keeps.nothingElse below found
  obtain ⟨otherTopic, otherNumber, -, liesLater⟩ := keepsLater.lies given mem
  obtain ⟨rfl, sameName⟩ := compose_inj lies.topicOk lies.nameOk liesLater.topicOk
    liesLater.nameOk (lies.reference.symm.trans liesLater.reference)
  rw [lies.file] at found
  rw [sameName, liesLater.file, found]

end Keeps

end DirectoryDepot

end PayloadDepot
