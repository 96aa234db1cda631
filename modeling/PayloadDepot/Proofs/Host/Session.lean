import Mathlib.Tactic.Choose
import PayloadDepot.Proofs.Effect

/-!
# Sessions with a file system

What an action has to do with files is a session: it hands calls to the file
system one after the other, learns nothing of the files but the answers, and
changes them by the calls alone.  A session is chosen before the files are
known, so an action that performs one cannot touch anything that none of its
calls names.
-/

namespace PayloadDepot

variable {δ α β ρ τ : Type}

/-- A call of a file system, with what it is answered by. -/
inductive FileCall : Type → Type where
  | isDirectory (path : String) : FileCall Bool
  | find (path : String) : FileCall (Except IoFault FileEntry)
  | makeDirectories (path : String) : FileCall (Except IoFault Unit)
  | createFile (path : String) : FileCall (Except IoFault FilePath)
  | writeFile (names : FilePath) (content : ByteArray) : FileCall (Except IoFault Unit)
  | flushFile : FileCall (Except IoFault Unit)
  | drop (names : FilePath) : FileCall Unit

namespace FileCall

def serve : FileCall α → FileSystem → α × FileSystem
  | isDirectory path, files => (files.isDirectory path, files)
  | find path, files => (files.find path, files)
  | makeDirectories path, files => files.makeDirectories path
  | createFile path, files => files.createFile path
  | writeFile names content, files => files.writeFile names content
  | flushFile, files => files.flushFile
  | drop names, files => ((), files.drop names)

/-- Whether a call goes to a path of some sort, or to a file that was made before. -/
def Allowed (inside : String → Prop) (opened : List FilePath) : FileCall α → Prop
  | isDirectory path | find path | makeDirectories path | createFile path => inside path
  | writeFile names _ | drop names => names ∈ opened
  | flushFile => True

/-- The files that were made before, with the one that a call made. -/
def opening (opened : List FilePath) : FileCall α → α → List FilePath
  | createFile _, .ok names => names :: opened
  | _, _ => opened

variable {inside : String → Prop} {opened more : List FilePath}

theorem Allowed.mono {request : FileCall α} (allowed : request.Allowed inside opened)
    (subset : opened ⊆ more) : request.Allowed inside more := by
  cases request with
  | isDirectory path | find path | makeDirectories path | createFile path => exact allowed
  | writeFile names content | drop names => exact subset allowed
  | flushFile => trivial

theorem opening_mono (request : FileCall α) (answer : α) (subset : opened ⊆ more) :
    request.opening opened answer ⊆ request.opening more answer := by
  cases request with
  | createFile path =>
      cases answer with
      | ok names => exact List.cons_subset_cons _ subset
      | error fault => exact subset
  | _ => exact subset

theorem subset_opening (request : FileCall α) (answer : α) (opened : List FilePath) :
    opened ⊆ request.opening opened answer := by
  cases request with
  | createFile path =>
      cases answer with
      | ok names => exact List.subset_cons_self _ _
      | error fault => exact List.Subset.refl _
  | _ => exact List.Subset.refl _

end FileCall

/-- Calls of a file system one after the other, each chosen after the answers to those before. -/
inductive FileSession (ρ : Type) : Type 1 where
  | done (result : ρ)
  | call {α : Type} (request : FileCall α) (next : α → FileSession ρ)

namespace FileSession

/-- What a session comes to with some files, and the files after it. -/
def perform : FileSession ρ → FileSystem → ρ × FileSystem
  | done result, files => (result, files)
  | call request next, files => (next (request.serve files).1).perform (request.serve files).2

/-- Whatever is answered, all calls of a session go to paths of some sort or to files that the
session made. -/
inductive Within (inside : String → Prop) : List FilePath → FileSession ρ → Prop
  | done {opened : List FilePath} (result : ρ) : Within inside opened (done result)
  | call {opened : List FilePath} {α : Type} {request : FileCall α} {next : α → FileSession ρ}
      (allowed : request.Allowed inside opened)
      (later : ∀ answer, Within inside (request.opening opened answer) (next answer)) :
      Within inside opened (call request next)

/-- Whatever is answered, a session comes to a result of some sort. -/
inductive Ends (post : ρ → Prop) : FileSession ρ → Prop
  | done {result : ρ} (holds : post result) : Ends post (done result)
  | call {α : Type} {request : FileCall α} {next : α → FileSession ρ}
      (later : ∀ answer, Ends post (next answer)) : Ends post (call request next)

variable {inside : String → Prop} {opened more : List FilePath} {post : ρ → Prop} {last : τ → Prop}

theorem Within.mono {session : FileSession ρ} (within : session.Within inside opened)
    (subset : opened ⊆ more) : session.Within inside more := by
  induction within generalizing more with
  | done result => exact .done result
  | call allowed later inductionHypothesis =>
      exact .call (allowed.mono subset) fun answer =>
        inductionHypothesis answer (FileCall.opening_mono _ answer subset)

end FileSession

/-- What is done with files is a session that goes to paths of some sort. -/
def Confined (inside : String → Prop) (opened : List FilePath) (post : ρ → Prop)
    (run : FileSystem → ρ × FileSystem) : Prop :=
  ∃ session : FileSession ρ, (∀ files, run files = session.perform files) ∧
    session.Within inside opened ∧ session.Ends post

namespace Confined

variable {inside : String → Prop} {opened : List FilePath} {post : ρ → Prop} {last : τ → Prop}

theorem done {result : ρ} (holds : post result) :
    Confined inside opened post fun files => (result, files) :=
  ⟨.done result, fun _ => rfl, .done result, .done holds⟩

theorem call (request : FileCall α) (next : α → FileSystem → ρ × FileSystem)
    (allowed : request.Allowed inside opened)
    (later : ∀ answer, Confined inside (request.opening opened answer) post (next answer)) :
    Confined inside opened post fun files =>
      next (request.serve files).1 (request.serve files).2 := by
  choose sessions runs within ends using later
  exact ⟨.call request sessions, fun files => runs _ _, .call allowed within, .call ends⟩

/-- What goes on after a session, however that one ends, makes one session with it. -/
theorem bind {run : FileSystem → ρ × FileSystem} (confined : Confined inside opened post run)
    (next : ρ → FileSystem → τ × FileSystem)
    (later : ∀ result, post result → Confined inside opened last (next result)) :
    Confined inside opened last fun files => next (run files).1 (run files).2 := by
  obtain ⟨session, runs, within, ends⟩ := confined
  simp only [runs]
  clear runs
  induction session generalizing opened with
  | done result =>
      cases ends with
      | done holds => exact later result holds
  | call request sessions inductionHypothesis =>
      cases within with
      | call allowed within =>
          cases ends with
          | call ends =>
              refine call request (fun answer files =>
                next ((sessions answer).perform files).1 ((sessions answer).perform files).2)
                allowed fun answer => ?_
              refine inductionHypothesis answer (fun result holds => ?_) (within answer)
                (ends answer)
              obtain ⟨session, runs, within, ends⟩ := later result holds
              exact ⟨session, runs, within.mono (FileCall.subset_opening _ _ _), ends⟩

end Confined

def World.withFiles (world : World δ) (files : FileSystem) : World δ :=
  { world with files := files }

@[simp]
theorem World.withFiles_files (world : World δ) (files : FileSystem) :
    (world.withFiles files).files = files := rfl

namespace Action

/-- What an action does with the files of a world: it ends with an outcome and the rest of the
world, and leaves files. -/
def filing (action : Action δ α) (world : World δ) (files : FileSystem) :
    (Except Fault α × World δ) × FileSystem :=
  (((on action (world.withFiles files)).1, (on action (world.withFiles files)).2.withFiles .empty),
    (on action (world.withFiles files)).2.files)

/-- Whether an action performs a session in a world, whatever the files. -/
def Performs (action : Action δ α) (world : World δ)
    (session : FileSession (Except Fault α × World δ)) : Prop :=
  ∀ files, action.filing world files = session.perform files

/-- Whether an action does not touch files: it ends in the same way and changes the same, whatever
they are, and leaves them as they are. -/
def Fileless (action : Action δ α) : Prop :=
  ∀ world files, on action (world.withFiles files) =
    ((on action world).1, (on action world).2.withFiles files)

theorem Fileless.filing {action : Action δ α} (fileless : action.Fileless) (world : World δ)
    (files : FileSystem) :
    action.filing world files =
      (((on action world).1, (on action world).2.withFiles .empty), files) := by
  rw [Action.filing, fileless]
  rfl

theorem filing_bind (action : Action δ α) (next : α → Action δ β) (world : World δ)
    (files : FileSystem) :
    (action >>= next).filing world files =
      match (action.filing world files).1 with
      | (.ok value, rest) => (next value).filing rest (action.filing world files).2
      | (.error fault, rest) => ((.error fault, rest), (action.filing world files).2) := by
  rw [filing, filing, on_bind]
  rcases on action (world.withFiles files) with ⟨fault | value, after⟩ <;> rfl

theorem filing_attempt_bind (action : Action δ α) (next : Except Fault α → Action δ β)
    (world : World δ) (files : FileSystem) :
    (lift (attempt action) >>= next).filing world files =
      (next (action.filing world files).1.1).filing (action.filing world files).1.2
        (action.filing world files).2 := by
  rw [filing, on_lift_bind]
  rfl

variable {inside : String → Prop} {opened : List FilePath}
  {post : Except Fault α × World δ → Prop} {last : Except Fault β × World δ → Prop}

/-- What goes on after an action that succeeds makes one session with it. -/
theorem confined_bind {action : Action δ α} {next : α → Action δ β} {world : World δ}
    (confined : Confined inside opened post (action.filing world))
    (succeeds : ∀ value rest, post (.ok value, rest) →
      Confined inside opened last ((next value).filing rest))
    (fails : ∀ fault rest, post (.error fault, rest) → last (.error fault, rest)) :
    Confined inside opened last ((action >>= next).filing world) := by
  rw [(funext (filing_bind action next world) : (action >>= next).filing world = _)]
  refine confined.bind (fun result files => match result with
    | (.ok value, rest) => (next value).filing rest files
    | (.error fault, rest) => ((.error fault, rest), files)) ?_
  rintro ⟨fault | value, rest⟩ holds
  · exact .done (fails fault rest holds)
  · exact succeeds value rest holds

theorem confined_attempt_bind {action : Action δ α} {next : Except Fault α → Action δ β}
    {world : World δ} (confined : Confined inside opened post (action.filing world))
    (later : ∀ outcome rest, post (outcome, rest) →
      Confined inside opened last ((next outcome).filing rest)) :
    Confined inside opened last ((lift (attempt action) >>= next).filing world) := by
  rw [(funext (filing_attempt_bind action next world) :
    (lift (attempt action) >>= next).filing world = _)]
  exact confined.bind (fun result => (next result.1).filing result.2)
    fun result holds => later result.1 result.2 holds

/-- What an effect does that touches no files is done before the session. -/
theorem filing_lift_bind {effect : Effect δ α} {world : World δ}
    (fileless : ∀ files, Effect.on effect (world.withFiles files) =
      ((Effect.on effect world).1, (Effect.on effect world).2.withFiles files))
    (next : α → Action δ β) :
    (lift effect >>= next).filing world =
      (next (Effect.on effect world).1).filing (Effect.on effect world).2 := by
  funext files
  rw [filing, on_lift_bind, fileless]
  rfl

/-- A look at the files after which only matters whether a directory is there is a call. -/
theorem confined_isDirectory {path : String} {look : FileSystem → Action δ β} {world : World δ}
    (asks : ∀ files other, files.isDirectory path = other.isDirectory path →
      look files = look other)
    (allowed : inside path)
    (later : ∀ files, Confined inside opened last ((look files).filing world)) :
    Confined inside opened last ((lift World.files? >>= look).filing world) := by
  classical
  let next (present : Bool) : Action δ β :=
    if found : ∃ files : FileSystem, files.isDirectory path = present then look found.choose
    else look .empty
  have looks (files : FileSystem) : look files = next (files.isDirectory path) := by
    have found : ∃ other : FileSystem, other.isDirectory path = files.isDirectory path :=
      ⟨files, rfl⟩
    have chosen : next (files.isDirectory path) = look found.choose := dif_pos found
    exact (asks _ _ found.choose_spec.symm).trans chosen.symm
  rw [(funext looks : look = _)]
  refine Confined.call (.isDirectory path) (fun present => (next present).filing world) allowed
    fun present => ?_
  dsimp only [next]
  split <;> exact later _

theorem confined_onFiles (request : FileCall α) {next : α → Action δ β} {world : World δ}
    (allowed : request.Allowed inside opened)
    (later : ∀ answer, Confined inside (request.opening opened answer) last
      ((next answer).filing world)) :
    Confined inside opened last
      ((lift (World.onFiles request.serve) >>= next).filing world) :=
  Confined.call request (fun answer => (next answer).filing world) allowed later

theorem confined_of_fileless {action : Action δ α} (fileless : action.Fileless) {world : World δ}
    (holds : post ((on action world).1, (on action world).2.withFiles .empty)) :
    Confined inside opened post (action.filing world) := by
  rw [(funext (fileless.filing world) : action.filing world = _)]
  exact .done holds

end Action

end PayloadDepot
