import PayloadDepot.Proofs.Host.Paths

/-!
# Making directories

Making a directory with those above it adds directories where nothing was and
changes no entry that is there, however it ends.  Every directory that it adds
is one that a beginning of the path leads to, so below a directory that exists
only the last one can be new.
-/

namespace PayloadDepot

namespace FileSystem

variable {files later last : FileSystem} {names root : FilePath} {path directory name : String}
  {pieces : List String} {spots : FilePath → Prop}

/-- One tree is another one with directories in some spots where nothing was. -/
def Furnishes (later files : FileSystem) (spots : FilePath → Prop) : Prop :=
  ∀ other, later.entry? other = files.entry? other ∨
    files.entry? other = none ∧ later.entry? other = some .directory ∧ spots other

namespace Furnishes

theorem refl (files : FileSystem) (spots : FilePath → Prop) : Furnishes files files spots :=
  fun _ => .inl rfl

theorem kept (furnishes : Furnishes later files spots) {entry : FileEntry}
    (found : files.entry? names = some entry) : later.entry? names = some entry := by
  rcases furnishes names with same | ⟨empty, -, -⟩
  · exact same.trans found
  · rw [empty] at found
    cases found

theorem walk {place : FilePath} (furnishes : Furnishes later files spots)
    (led : files.walk place pieces = .ok names) : later.walk place pieces = .ok names :=
  walk_of_kept (fun _ => True) id (fun _ _ _ => trivial) (fun _ => furnishes.kept)
    trivial led

/-- A path leads where it led before directories were added. -/
theorem resolve (furnishes : Furnishes later files spots)
    (resolved : files.resolve path = .ok names) : later.resolve path = .ok names :=
  resolve_of_walk furnishes.walk resolved

theorem mono {wider : FilePath → Prop} (furnishes : Furnishes later files spots)
    (within : ∀ {other}, files.entry? other = none → spots other → wider other) :
    Furnishes later files wider := by
  intro other
  rcases furnishes other with same | ⟨empty, made, spot⟩
  · exact .inl same
  · exact .inr ⟨empty, made, within empty spot⟩

theorem trans (first : Furnishes later files spots) (second : Furnishes last later spots) :
    Furnishes last files spots := by
  intro other
  rcases second other with same | ⟨empty, made, spot⟩
  · rcases first other with before | ⟨empty, made, spot⟩
    · exact .inl (same.trans before)
    · exact .inr ⟨empty, same.trans made, spot⟩
  · rcases first other with before | ⟨-, made, -⟩
    · exact .inr ⟨before.symm.trans empty, made, spot⟩
    · rw [empty] at made
      cases made

/-- Adding directories adds no file and removes none. -/
theorem file_iff (furnishes : Furnishes later files spots) {content : ByteArray} :
    later.entry? names = some (.file content) ↔ files.entry? names = some (.file content) := by
  rcases furnishes names with same | ⟨empty, made, -⟩
  · rw [same]
  · rw [empty, made]
    simp

end Furnishes

theorem furnishes_of_nextRefusal {refusal : Option IoFault}
    (served : files.nextRefusal = (refusal, later)) (spots : FilePath → Prop) :
    Furnishes later files spots := by
  intro other
  rw [← entry?_nextRefusal files other, served]
  exact .inl rfl

theorem furnishes_makeDirectory (files : FileSystem) (path : String) :
    Furnishes (files.makeDirectory path).2 files fun names => files.resolve path = .ok names := by
  rw [makeDirectory]
  split
  · exact .refl _ _
  · next names resolved =>
    split
    · exact .refl _ _
    · next empty =>
      split
      · next served => exact furnishes_of_nextRefusal served _
      · next later served =>
        have filled : names ≠ [] := by
          rintro rfl
          cases empty
        intro other
        rw [entry?_put filled, ← entry?_nextRefusal files other, served]
        split
        · next here =>
          subst here
          rw [← entry?_nextRefusal files, served] at empty
          exact .inr ⟨empty, rfl, resolved⟩
        · exact .inl rfl

/-- What a path leads to whose pieces are given from the last one upwards, or a beginning of it. -/
def Passes (files : FileSystem) (pieces : List String) (names : FilePath) : Prop :=
  ∃ part, part ≠ [] ∧ part <:+ pieces ∧
    files.resolve (String.intercalate "/" part.reverse) = .ok names

namespace Furnishes

theorem passes (furnishes : Furnishes later files spots) (passed : files.Passes pieces names) :
    later.Passes pieces names := by
  obtain ⟨part, filled, within, resolved⟩ := passed
  exact ⟨part, filled, within, furnishes.resolve resolved⟩

/-- What is passed may be told of the tree before or after the directories were added. -/
theorem passing (furnishes : Furnishes later files (files.Passes pieces)) :
    Furnishes later files (later.Passes pieces) :=
  furnishes.mono fun _ passed => furnishes.passes passed

theorem trans_passing (first : Furnishes later files (later.Passes pieces))
    (second : Furnishes last later (last.Passes pieces)) :
    Furnishes last files (last.Passes pieces) :=
  (first.mono fun _ passed => second.passes passed).trans second

end Furnishes

/-- Directories are made only where the path or a beginning of it leads to. -/
theorem furnishes_makeDirectoriesUp (files : FileSystem) (pieces : List String) :
    Furnishes (files.makeDirectoriesUp pieces).2 files
      ((files.makeDirectoriesUp pieces).2.Passes pieces) := by
  induction pieces generalizing files with
  | nil => exact .refl _ _
  | cons piece above inductionHypothesis =>
      have making (tree : FileSystem) : Furnishes
          (tree.makeDirectory (String.intercalate "/" (piece :: above).reverse)).2 tree
            (tree.Passes (piece :: above)) :=
        (furnishes_makeDirectory tree _).mono fun _ resolved =>
          ⟨piece :: above, List.cons_ne_nil _ _, List.suffix_refl _, resolved⟩
      have first := making files
      rw [makeDirectoriesUp]
      rcases made : files.makeDirectory (String.intercalate "/" (piece :: above).reverse) with
        ⟨fault | _, later⟩ <;> rw [made] at first
      · dsimp only at first ⊢
        split
        · -- The directory above was missing, so it is made first, and then this one once more.
          have second : Furnishes (later.makeDirectoriesUp above).2 later
              ((later.makeDirectoriesUp above).2.Passes (piece :: above)) := by
            refine (inductionHypothesis later).mono fun _ passed => ?_
            obtain ⟨part, filled, within, resolved⟩ := passed
            exact ⟨part, filled, within.trans (List.suffix_cons piece above), resolved⟩
          have third := making (later.makeDirectoriesUp above).2
          rcases makes : later.makeDirectoriesUp above with ⟨fault | _, after⟩ <;>
            rw [makes] at second third
          · exact first.passing.trans_passing second
          · have whole := (first.passing.trans_passing second).trans_passing third.passing
            dsimp only at whole ⊢
            rcases again : after.makeDirectory
              (String.intercalate "/" (piece :: above).reverse) with ⟨fault | _, last⟩ <;>
              rw [again] at whole
            · dsimp only
              split <;> exact whole
            · exact whole
        · split <;> exact first.passing
      · exact first.passing

/-- Below a directory that exists, only the last directory of a path is ever made. -/
theorem furnishes_makeDirectories (rooted : files.resolve directory = .ok root)
    (isDirectory : files.entry? root = some .directory) (plain : IsPlain name) :
    Furnishes (files.makeDirectories (joinPath directory name)).2 files (· = root ++ [name]) := by
  have furnishes := furnishes_makeDirectoriesUp files
    (pathPieces (joinPath directory name)).reverse
  obtain ⟨pieces, joined, stem⟩ := pathPieces_joinPath plain.noSlash directory
  have filled : directory ≠ "" := (resolve_iff.mp rooted).2.1
  refine furnishes.mono fun empty passed => ?_
  obtain ⟨part, partFilled, within, resolved⟩ := passed
  have beginning : part.reverse <+: pieces ++ [name] := by
    rw [← joined, ← List.reverse_suffix, List.reverse_reverse]
    exact within
  rcases List.prefix_concat_iff.mp beginning with whole | shorter
  · rw [whole, ← joined, intercalate_pathPieces] at resolved
    obtain ⟨above, led, -, -, rfl⟩ := (resolve_joinPath_iff filled plain).mp resolved
    rw [furnishes.resolve rooted] at led
    cases led
    rfl
  · -- A beginning of the path to the directory leads to what is there already.
    have beginning : part.reverse <+: pathPieces directory := by
      rcases stem with same | same <;> rw [same]
      · exact shorter
      · exact shorter.trans (List.prefix_append _ _)
    have free : ∀ piece ∈ part.reverse, '/' ∉ piece.toList :=
      fun piece mem => noSlash_of_mem_pathPieces (beginning.subset mem)
    obtain ⟨rest, split⟩ := beginning
    have led := (resolve_iff.mp rooted).2.2.2
    rw [← split] at led
    obtain ⟨between, walked, found⟩ := exists_walk_of_append isDirectory led
    have same := (resolve_iff.mp resolved).2.2.2
    rw [pathPieces_intercalate (by simpa using partFilled) free, furnishes.walk walked] at same
    cases same
    rw [empty] at found
    cases found

end FileSystem

end PayloadDepot
