import PayloadDepot.Proofs.Host.Files
import PayloadDepot.Proofs.Text.Parts

/-!
# Paths below directories

A plain name joined to the path of a directory leads to the entry of that name
in the directory, and nowhere else.  What a path leads to stays so as long as
the directories on its way do, for it leads through directories only.
-/

namespace PayloadDepot

namespace FileSystem

/-- Whether a name is one entry of a directory wherever paths are read: it is neither the directory
itself nor the one above, and it has no separator in it. -/
structure IsPlain (name : String) : Prop where
  filled : name ≠ ""
  notHere : name ≠ "."
  notAbove : name ≠ ".."
  noSlash : '/' ∉ name.toList
  noBackslash : '\\' ∉ name.toList
  noNul : Char.ofNat 0 ∉ name.toList

/-- Whether a name below a directory is short enough for a path to lead there. -/
structure Short (directory name : String) : Prop where
  path : (joinPath directory name).utf8ByteSize < pathLimit
  name : name.utf8ByteSize ≤ longestName

variable {files later : FileSystem} {place above names : FilePath} {directory name : String}

section Joining

theorem noSlash_of_mem_pathPieces {path piece : String} (mem : piece ∈ pathPieces path) :
    '/' ∉ piece.toList :=
  Text.notMem_of_mem_split mem

theorem intercalate_pathPieces (path : String) :
    String.intercalate "/" (pathPieces path) = path :=
  Text.intercalate_split '/' path

theorem pathPieces_intercalate {pieces : List String} (filled : pieces ≠ [])
    (free : ∀ piece ∈ pieces, '/' ∉ piece.toList) :
    pathPieces (String.intercalate "/" pieces) = pieces :=
  Text.split_intercalate filled free

/-- A name that is joined to a path is the last of its pieces, and the pieces before it are those of
the path, but for the empty one behind a slash. -/
theorem pathPieces_joinPath (noSlash : '/' ∉ name.toList) (directory : String) :
    ∃ pieces, pathPieces (joinPath directory name) = pieces ++ [name] ∧
      (pathPieces directory = pieces ∨ pathPieces directory = pieces ++ [""]) := by
  have alone : pathPieces name = [name] := by
    simp [pathPieces, Text.split, Text.splitEverywhere_of_absent noSlash]
  have behind (before after : String) :
      pathPieces (before ++ "/" ++ after) = pathPieces before ++ pathPieces after := by
    simp [pathPieces, Text.split, Text.splitEverywhere_append]
  by_cases empty : directory = ""
  · subst empty
    exact ⟨[], by simpa [joinPath] using alone, .inr rfl⟩
  · cases slashed : directory.endsWith "/" with
    | false =>
        refine ⟨pathPieces directory, ?_, .inl rfl⟩
        rw [joinPath, slashed]
        simp [empty, behind, alone]
    | true =>
        obtain ⟨before, rfl⟩ : ∃ before, directory = before ++ "/" := by
          rw [String.endsWith, String.Slice.endsWith_string_iff, String.copy_toSlice] at slashed
          obtain ⟨before, ends⟩ := slashed
          exact ⟨String.ofList before, String.toList_inj.mp (by simp [← ends])⟩
        refine ⟨pathPieces before, ?_, .inr ?_⟩
        · rw [joinPath, slashed]
          simp [behind, alone]
        · simpa [pathPieces, Text.split, Text.splitEverywhere] using behind before ""

theorem utf8ByteSize_le_joinPath (directory name : String) :
    directory.utf8ByteSize ≤ (joinPath directory name).utf8ByteSize := by
  rw [joinPath]
  split
  · simp
  · simp only [String.utf8ByteSize_append]
    omega

theorem mem_joinPath {character : Char} (other : character ≠ '/') :
    character ∈ (joinPath directory name).toList ↔
      character ∈ directory.toList ∨ character ∈ name.toList := by
  rw [joinPath]
  split <;> simp [other]

end Joining

section Walking

theorem walk_append (first second : List String) :
    files.walk place (first ++ second) =
      files.walk place first >>= fun between => files.walk between second := by
  induction first generalizing place with
  | nil => rfl
  | cons piece pieces inductionHypothesis =>
      rw [List.cons_append, walk, walk]
      cases files.entry? place with
      | none => rfl
      | some entry =>
          cases entry with
          | file content => rfl
          | directory =>
              dsimp only
              split
              · exact inductionHypothesis
              · split
                · exact inductionHypothesis
                · split
                  · rfl
                  · exact inductionHypothesis

/-- Whatever a path comes through on its way to a directory is one too. -/
theorem exists_walk_of_append {first second : List String}
    (isDirectory : files.entry? names = some .directory)
    (led : files.walk place (first ++ second) = .ok names) :
    ∃ between, files.walk place first = .ok between ∧
      files.entry? between = some .directory := by
  rw [walk_append] at led
  rcases walked : files.walk place first with fault | between <;> rw [walked] at led
  · cases led
  · refine ⟨between, rfl, ?_⟩
    change files.walk between second = .ok names at led
    cases second with
    | nil =>
        cases led
        exact isDirectory
    | cons piece pieces =>
        rw [walk] at led
        split at led
        · cases led
        · cases led
        · next found => exact found

/-- From a place on, a plain name leads to its entry there if the place is a directory. -/
theorem walk_name_iff (plain : IsPlain name) :
    files.walk place [name] = .ok names ↔ files.entry? place = some .directory ∧
      name.utf8ByteSize ≤ longestName ∧ names = place ++ [name] := by
  rw [walk]
  cases files.entry? place with
  | none => simp
  | some entry =>
      cases entry with
      | file content => simp
      | directory =>
          by_cases long : longestName < name.utf8ByteSize
          · simp [plain.filled, plain.notHere, plain.notAbove, long, Nat.not_le_of_lt long]
          · simp [plain.filled, plain.notHere, plain.notAbove, long, Nat.le_of_not_lt long, walk,
              eq_comm]

theorem walk_joinPath (noSlash : '/' ∉ name.toList) :
    files.walk place (pathPieces (joinPath directory name)) =
      files.walk place (pathPieces directory) >>= fun above => files.walk above [name] := by
  obtain ⟨pieces, joined, same | same⟩ := pathPieces_joinPath noSlash directory
  · rw [joined, same, walk_append]
  · rw [joined, same, walk_append, walk_append, bind_assoc]
    congr 1
    funext between
    -- The empty piece stays at a directory, and elsewhere it ends as the name does.
    simp only [walk]
    cases found : files.entry? between with
    | none => rfl
    | some entry => cases entry <;> simp [bind, Except.bind, found]

theorem resolve_iff {path : String} :
    files.resolve path = .ok names ↔ Char.ofNat 0 ∉ path.toList ∧ path ≠ "" ∧
      path.utf8ByteSize < pathLimit ∧ files.walk [] (pathPieces path) = .ok names := by
  rw [resolve]
  by_cases nul : Char.ofNat 0 ∈ path.toList
  · simp [nul]
  · by_cases filled : path = ""
    · simp [filled]
    · by_cases long : pathLimit ≤ path.utf8ByteSize
      · simp [nul, filled, long, Nat.not_lt_of_le long]
      · simp [nul, filled, long, Nat.lt_of_not_le long]

/-- A path that a plain name was joined to leads to the entry of that name in the directory. -/
theorem resolve_joinPath_iff (filled : directory ≠ "") (plain : IsPlain name) :
    files.resolve (joinPath directory name) = .ok names ↔
      ∃ above, files.resolve directory = .ok above ∧ files.entry? above = some .directory ∧
        Short directory name ∧ names = above ++ [name] := by
  have joined : joinPath directory name ≠ "" := by
    intro empty
    have size := utf8ByteSize_le_joinPath directory name
    rw [empty] at size
    exact filled (String.utf8ByteSize_eq_zero_iff.mp (Nat.le_zero.mp size))
  have noNul : Char.ofNat 0 ∉ (joinPath directory name).toList ↔
      Char.ofNat 0 ∉ directory.toList := by
    rw [mem_joinPath (by decide), not_or, and_iff_left plain.noNul]
  rw [resolve_iff, walk_joinPath plain.noSlash, noNul]
  constructor
  · rintro ⟨nul, -, short, walked⟩
    rcases led : files.walk [] (pathPieces directory) with fault | above
    · rw [led] at walked
      cases walked
    · rw [led] at walked
      obtain ⟨isDirectory, shortName, rfl⟩ := (walk_name_iff plain).mp walked
      refine ⟨above, resolve_iff.mpr ⟨nul, filled, ?_, led⟩, isDirectory, ⟨short, shortName⟩, rfl⟩
      exact Nat.lt_of_le_of_lt (utf8ByteSize_le_joinPath directory name) short
  · rintro ⟨above, resolved, isDirectory, short, rfl⟩
    obtain ⟨nul, -, -, led⟩ := resolve_iff.mp resolved
    refine ⟨nul, joined, short.path, ?_⟩
    rw [led]
    exact (walk_name_iff plain).mpr ⟨isDirectory, short.name, rfl⟩

/-- No file can be made in a directory that is missing. -/
theorem createFile_of_missing (filled : directory ≠ "") (plain : IsPlain name)
    (missing : files.isDirectory directory = false) :
    ∃ fault, files.createFile (joinPath directory name) = (.error fault, files) := by
  rw [createFile]
  cases resolved : files.resolve (joinPath directory name) with
  | error fault => exact ⟨fault, rfl⟩
  | ok names =>
      obtain ⟨above, leads, found, -⟩ := (resolve_joinPath_iff filled plain).mp resolved
      simp [isDirectory, find, leads, found] at missing

end Walking

section Keeping

variable {pieces : List String} {path : String}

/-- A path leads to the same place as long as the directories stay that it can come through. -/
theorem walk_of_kept (passable : FilePath → Prop)
    (up : ∀ {place}, passable place → passable place.dropLast)
    (down : ∀ {place} piece, passable place → files.entry? place = some .directory →
      passable (place ++ [piece]))
    (kept : ∀ {place}, passable place → files.entry? place = some .directory →
      later.entry? place = some .directory)
    (here : passable place) (led : files.walk place pieces = .ok names) :
    later.walk place pieces = .ok names := by
  induction pieces generalizing place with
  | nil => exact led
  | cons piece pieces inductionHypothesis =>
      rw [walk] at led ⊢
      cases found : files.entry? place with
      | none =>
          rw [found] at led
          cases led
      | some entry =>
          cases entry with
          | file content =>
              rw [found] at led
              cases led
          | directory =>
              rw [found] at led
              rw [kept here found]
              dsimp only at led ⊢
              split at led
              · next skipped =>
                rw [if_pos skipped]
                exact inductionHypothesis here led
              · next stepping =>
                rw [if_neg stepping]
                split at led
                · next upwards =>
                  rw [if_pos upwards]
                  exact inductionHypothesis (up here) led
                · next downwards =>
                  rw [if_neg downwards]
                  split at led
                  · cases led
                  · next short =>
                    rw [if_neg short]
                    exact inductionHypothesis (down piece here found) led

theorem resolve_of_walk (kept : files.walk [] (pathPieces path) = .ok names →
      later.walk [] (pathPieces path) = .ok names)
    (resolved : files.resolve path = .ok names) : later.resolve path = .ok names := by
  obtain ⟨noNul, filled, short, led⟩ := resolve_iff.mp resolved
  exact resolve_iff.mpr ⟨noNul, filled, short, kept led⟩

/-- What lies at or below an entry that is no directory is on the way to nothing else. -/
theorem resolve_of_outside {hidden : FilePath}
    (noDirectory : files.entry? hidden ≠ some .directory)
    (kept : ∀ {other}, ¬ hidden <+: other → files.entry? other = some .directory →
      later.entry? other = some .directory)
    (resolved : files.resolve path = .ok names) : later.resolve path = .ok names := by
  let passable (place : FilePath) : Prop := hidden <+: place → place = hidden
  refine resolve_of_walk (walk_of_kept passable ?_ ?_ ?_ ?_) resolved
  · intro place here below
    have whole : place = hidden := here (below.trans (List.dropLast_prefix place))
    have length := below.length_le
    rw [whole, List.length_dropLast] at length
    have empty : hidden = [] := List.eq_nil_of_length_eq_zero (by omega)
    rw [whole, empty, List.dropLast_nil]
  · intro place piece here found below
    rcases List.prefix_concat_iff.mp below with whole | inside
    · exact whole.symm
    · rw [here inside] at found
      exact absurd found noDirectory
  · intro place here found
    refine kept (fun inside => ?_) found
    rw [here inside] at found
    exact noDirectory found
  · intro below
    exact (List.prefix_nil.mp below).symm

end Keeping

end FileSystem

end PayloadDepot
