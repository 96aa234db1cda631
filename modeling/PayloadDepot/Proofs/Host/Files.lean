import PayloadDepot.Host.Files

/-!
# Files that were just written

Putting a file somewhere changes no other entry, and no path that led there led
through it, for it was no directory.  So a path at which a file was made and
written leads to what was written.
-/

namespace PayloadDepot

namespace FileSystem

theorem lookup_filter_of_ne {names other : FilePath} (different : other ≠ names)
    (entries : List (FilePath × FileEntry)) :
    (entries.filter fun entry => entry.1 ≠ names).lookup other = entries.lookup other := by
  induction entries with
  | nil => rfl
  | cons entry later inductionHypothesis =>
      obtain ⟨first, present⟩ := entry
      by_cases same : first = names
      · have apart : (other == first) = false := by simp [same, different]
        simp only [List.filter_cons, same, List.lookup_cons, ne_eq, not_true_eq_false,
          decide_false, Bool.false_eq_true, ↓reduceIte]
        rw [same] at apart
        simpa [apart] using inductionHypothesis
      · simp only [List.filter_cons, List.lookup_cons, ne_eq, same, not_false_eq_true,
          decide_true, ↓reduceIte, inductionHypothesis]

variable {files later : FileSystem} {names : FilePath}

theorem ne_nil_of_noDirectory (noDirectory : files.entry? names ≠ some .directory) :
    names ≠ [] := by
  rintro rfl
  exact noDirectory rfl

theorem entry?_put (filled : names ≠ []) (entry : FileEntry) (other : FilePath) :
    FileSystem.entry? (files.put names entry) other =
      if other = names then some entry else files.entry? other := by
  cases other with
  | nil => simp [ entry?, Ne.symm filled]
  | cons name rest =>
      rw [ entry?, put, List.lookup_cons]
      by_cases same : name :: rest = names
      · simp [same]
      · have apart : (name :: rest == names) = false := by simp [same]
        rw [apart, if_neg same, entry?]
        exact lookup_filter_of_ne same files.entries

/-- Two trees agree but for one entry, which is no directory in the first. -/
structure AgreeBut (later files : FileSystem) (names : FilePath) : Prop where
  noDirectory : files.entry? names ≠ some .directory
  entries : ∀ {other}, other ≠ names → later.entry? other = files.entry? other

/-- A path only leads through directories, so it leads to the same place. -/
theorem AgreeBut.walk (agree : AgreeBut later files names) {place result : FilePath}
    {pieces : List String} (led : files.walk place pieces = .ok result) :
    later.walk place pieces = .ok result := by
  induction pieces generalizing place with
  | nil => exact led
  | cons piece pieces inductionHypothesis =>
      rw [FileSystem.walk] at led ⊢
      by_cases here : place = names
      · subst here
        split at led
        · cases led
        · cases led
        · next directory => exact absurd directory agree.noDirectory
      · rw [agree.entries here]
        split at led
        · cases led
        · cases led
        · split at led
          · next skipped =>
            simp only [skipped, ↓reduceIte]
            exact inductionHypothesis led
          · next kept =>
            split at led
            · next up =>
              simp only [up, ↓reduceIte]
              exact inductionHypothesis led
            · next down =>
              split at led
              · cases led
              · next short =>
                simp only [kept, down, short, ↓reduceIte]
                exact inductionHypothesis led

theorem AgreeBut.resolve (agree : AgreeBut later files names) {path : String}
    {result : FilePath} (resolved : files.resolve path = .ok result) :
    later.resolve path = .ok result := by
  rw [FileSystem.resolve] at resolved ⊢
  split at resolved
  · cases resolved
  · next noNul =>
    split at resolved
    · cases resolved
    · next filled =>
      split at resolved
      · cases resolved
      · next short =>
        rw [if_neg noNul, if_neg filled, if_neg short]
        exact agree.walk resolved

theorem entry?_nextRefusal (files : FileSystem) (names : FilePath) :
    FileSystem.entry? files.nextRefusal.2 names = files.entry? names := by
  rw [nextRefusal]
  cases files.refusals <;> cases names <;> rfl

variable {path : String} {content : ByteArray} {made : FileSystem}

theorem of_createFile_ok (created : files.createFile path = (.ok names, made)) :
    files.resolve path = .ok names ∧ files.entry? names ≠ some .directory ∧
      ∀ other, made.entry? other =
        if other = names then some (.file ByteArray.empty) else files.entry? other := by
  rw [createFile] at created
  split at created
  · cases created
  · next resolved =>
    split at created
    · cases created
    · next noDirectory =>
      split at created
      · cases created
      · next later served =>
        cases created
        refine ⟨resolved, noDirectory, fun other => ?_⟩
        rw [entry?_put (ne_nil_of_noDirectory noDirectory), ← entry?_nextRefusal files other,
          served]

/-- A file that cannot be made leaves all entries as they are. -/
theorem entry?_of_createFile_error {fault : IoFault}
    (created : files.createFile path = (.error fault, later)) (other : FilePath) :
    later.entry? other = files.entry? other := by
  rw [createFile] at created
  split at created
  · cases created
    rfl
  · split at created
    · cases created
      rfl
    · split at created
      · next served =>
        cases created
        rw [← entry?_nextRefusal files other, served]
      · cases created

/-- Writing to a file changes no other entry, however it ends. -/
theorem entry?_writeFile (filled : names ≠ []) (content : ByteArray) {other : FilePath}
    (different : other ≠ names) :
    FileSystem.entry? (files.writeFile names content).2 other = files.entry? other := by
  rw [writeFile, ← entry?_nextRefusal files other]
  rcases files.nextRefusal with ⟨fault | _, later⟩
  · exact (entry?_put filled _ other).trans (if_neg different)
  · rfl

theorem entry?_flushFile (files : FileSystem) (other : FilePath) :
    FileSystem.entry? files.flushFile.2 other = files.entry? other := by
  rw [flushFile, ← entry?_nextRefusal files other]
  rcases files.nextRefusal with ⟨fault | _, later⟩ <;> rfl

theorem lookup_filter_of_prefix (names other : FilePath)
    (entries : List (FilePath × FileEntry)) :
    (entries.filter fun entry => names.isPrefixOf entry.1 = false).lookup other =
      if names <+: other then none else entries.lookup other := by
  induction entries with
  | nil => simp
  | cons entry later inductionHypothesis =>
      obtain ⟨first, present⟩ := entry
      by_cases same : other = first
      · subst same
        by_cases below : names <+: other
        · simpa [List.filter_cons, List.isPrefixOf_iff_prefix.mpr below, below]
            using inductionHypothesis
        · have outside : names.isPrefixOf other = false := by
            rw [Bool.eq_false_iff, ne_eq, List.isPrefixOf_iff_prefix]
            exact below
          simp [outside, below]
      · have apart : (other == first) = false := by simp [same]
        rw [List.lookup_cons, apart, List.filter_cons]
        split
        · rw [List.lookup_cons, apart]
          exact inductionHypothesis
        · exact inductionHypothesis

/-- What lies at or below a path is gone once it was dropped, and everything else is as it was. -/
theorem entry?_drop (filled : names ≠ []) (other : FilePath) :
    FileSystem.entry? (files.drop names) other =
      if names <+: other then none else files.entry? other := by
  cases other with
  | nil => simp [ entry?, filled]
  | cons name rest =>
      rw [ entry?, drop, entry?]
      exact lookup_filter_of_prefix names (name :: rest) files.entries

theorem of_writeFile_ok (filled : names ≠ [])
    (wrote : files.writeFile names content = (.ok (), later)) (other : FilePath) :
    later.entry? other = if other = names then some (.file content) else files.entry? other := by
  rw [writeFile] at wrote
  split at wrote
  · cases wrote
  · next served =>
    cases wrote
    rw [entry?_put filled, ← entry?_nextRefusal files other, served]

theorem of_flushFile_ok (flushed : files.flushFile = (.ok (), later)) (other : FilePath) :
    later.entry? other = files.entry? other := by
  rw [flushFile] at flushed
  split at flushed
  · cases flushed
  · next served =>
    cases flushed
    rw [← entry?_nextRefusal files other, served]

/-- A path leads to the content that was written to the file made at it. -/
theorem find_of_written {written flushed : FileSystem}
    (created : files.createFile path = (.ok names, made))
    (wrote : made.writeFile names content = (.ok (), written))
    (flush : written.flushFile = (.ok (), flushed)) :
    flushed.find path = .ok (.file content) := by
  obtain ⟨resolved, noDirectory, madeEntry⟩ := of_createFile_ok created
  have filled := ne_nil_of_noDirectory noDirectory
  have entries (other : FilePath) : flushed.entry? other =
      if other = names then some (.file content) else files.entry? other := by
    rw [of_flushFile_ok flush, of_writeFile_ok filled wrote, madeEntry]
    split <;> rfl
  have agree : AgreeBut flushed files names :=
    ⟨noDirectory, fun different => (entries _).trans (if_neg different)⟩
  simp [find, agree.resolve resolved, entries]

end FileSystem

end PayloadDepot
