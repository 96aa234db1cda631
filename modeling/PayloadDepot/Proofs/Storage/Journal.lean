import Mathlib.Data.List.Forall2
import PayloadDepot.Proofs.Storage.MemoryRuns
import PayloadDepot.Storage.Bucket.Depot
import PayloadDepot.Storage.Directory

/-!
# What does not depend on the journal

Actions note what they do in the journal and never look at it.  Two actions
agree if they end in the same way in worlds that differ in their journals at
most, and leave such worlds behind.  Check-outs of all depots agree with
themselves, so whoever checks the same payloads out in the same order gets the
same, whatever is noted in between.
-/

namespace PayloadDepot

variable {δ σ α β γ : Type}

/-- Two worlds that differ in their journals at most. -/
def World.Alike (first second : World δ) : Prop :=
  first.withJournal #[] = second.withJournal #[]

namespace World.Alike

variable {first second : World δ}

theorem refl (world : World δ) : world.Alike world := rfl

theorem state (alike : first.Alike second) : first.state = second.state := by
  have same : first.withJournal #[] = second.withJournal #[] := alike
  calc first.state = (first.withJournal #[]).state := rfl
    _ = second.state := by rw [same, withJournal_state]

theorem files (alike : first.Alike second) : first.files = second.files := by
  have same : first.withJournal #[] = second.withJournal #[] := alike
  calc first.files = (first.withJournal #[]).files := rfl
    _ = (second.withJournal #[]).files := by rw [same]
    _ = second.files := rfl

theorem clock (alike : first.Alike second) : first.clock = second.clock := by
  have same : first.withJournal #[] = second.withJournal #[] := alike
  calc first.clock = (first.withJournal #[]).clock := rfl
    _ = (second.withJournal #[]).clock := by rw [same]
    _ = second.clock := rfl

theorem withState (alike : first.Alike second) (state : δ) :
    (first.withState state).Alike (second.withState state) := by
  have same : first.withJournal #[] = second.withJournal #[] := alike
  calc (first.withState state).withJournal #[] = (first.withJournal #[]).withState state := rfl
    _ = (second.withJournal #[]).withState state := by rw [same]
    _ = (second.withState state).withJournal #[] := rfl

end World.Alike

/-- Two actions that end in the same way, and leave worlds behind that are alike, if they begin in
worlds that are alike. -/
def Action.Agree (first second : Action δ α) : Prop :=
  ∀ left right : World δ, left.Alike right →
    (Action.on first left).1 = (Action.on second right).1 ∧
      (Action.on first left).2.Alike (Action.on second right).2

namespace Action

variable {first second : Action δ α}

theorem agree_pure (value : α) : Agree (pure value : Action δ α) (pure value) :=
  fun _ _ alike => ⟨rfl, alike⟩

theorem agree_fail (fault : Fault) : Agree (fail fault : Action δ α) (fail fault) :=
  fun _ _ alike => ⟨rfl, alike⟩

theorem Agree.bind (agree : Agree first second) {next later : α → Action δ β}
    (agreeNext : ∀ value, Agree (next value) (later value)) :
    Agree (first >>= next) (second >>= later) := by
  intro left right alike
  obtain ⟨outcome, after⟩ := agree left right alike
  rw [on_bind, on_bind]
  rcases ran : on first left with ⟨fault | value, afterFirst⟩ <;>
    rcases ranSecond : on second right with ⟨otherFault | otherValue, afterSecond⟩ <;>
    rw [ran, ranSecond] at outcome after
  · obtain rfl : fault = otherFault := by simpa using outcome
    exact ⟨rfl, after⟩
  · cases outcome
  · cases outcome
  · obtain rfl : value = otherValue := by simpa using outcome
    exact agreeNext value afterFirst afterSecond after

/-- A line in the journal makes no difference. -/
theorem Agree.noting (agree : Agree first second) (level : Level) (text other : String) :
    Agree (do lift (World.log level text); first) (do lift (World.log level other); second) :=
  fun left right alike => agree (left.withJournal (left.journal.push ⟨level, text⟩))
    (right.withJournal (right.journal.push ⟨level, other⟩)) alike

/-- Actions that agree element by element agree one after the other. -/
theorem agree_mapM {act : α → Action δ β} {other : γ → Action δ β} {values : List α}
    {others : List γ}
    (agree : List.Forall₂ (fun value image => Agree (act value) (other image)) values others) :
    Agree (values.mapM act) (others.mapM other) := by
  induction agree with
  | nil => exact agree_pure []
  | cons head _ inductionHypothesis =>
      rw [List.mapM_cons, List.mapM_cons]
      exact head.bind fun _ => inductionHypothesis.bind fun _ => agree_pure _

theorem agree_ofExcept (outcome : Except Fault α) :
    Agree (ofExcept outcome : Action δ α) (ofExcept outcome) := by
  cases outcome with
  | error fault => exact agree_fail fault
  | ok value => exact agree_pure value

theorem agree_load (place : Cell δ σ) : Agree (lift place.load) (lift place.load) := by
  intro left right alike
  rw [on_lift, on_lift, Cell.on_load, Cell.on_load, alike.state]
  exact ⟨rfl, alike⟩

theorem agree_updateGet (place : Cell δ σ) (change : σ → α × σ) :
    Agree (lift (place.updateGet change)) (lift (place.updateGet change)) := by
  intro left right alike
  rw [on_lift, on_lift, Cell.on_updateGet, Cell.on_updateGet, alike.state]
  exact ⟨rfl, alike.withState _⟩

theorem agree_files : Agree (lift (World.files? : Effect δ FileSystem)) (lift World.files?) :=
  fun _ _ alike => ⟨congrArg Except.ok alike.files, alike⟩

end Action

/-- A depot whose check-outs take no notice of the journal. -/
def Depot.OverlooksJournal (depot : Depot δ) : Prop :=
  ∀ reference, Action.Agree (depot.checkOut reference) (depot.checkOut reference)

theorem MemoryDepot.overlooksJournal (place : Cell δ MemoryDepot) :
    (MemoryDepot.depot place).OverlooksJournal := by
  intro reference left right alike
  have checksOut : (MemoryDepot.depot place).checkOut reference = checkOut place reference := rfl
  rw [checksOut, on_checkOut, on_checkOut, alike.state]
  exact ⟨rfl, alike⟩

theorem DirectoryDepot.overlooksJournal (place : Cell δ DirectoryDepot) :
    (DirectoryDepot.depot place).OverlooksJournal := by
  intro reference
  have opens : Action.Agree (openBlob place reference) (openBlob place reference) := by
    refine (Action.agree_load place).bind fun depot => ?_
    refine (Action.agree_ofExcept _).bind fun path => ?_
    refine Action.agree_files.bind fun files => ?_
    cases files.find path with
    | ok entry => exact Action.agree_pure entry
    | error fault =>
        dsimp only
        split <;> exact Action.agree_fail _
  refine opens.bind fun entry => ?_
  cases entry with
  | directory => exact Action.agree_fail _
  | file content => exact Action.agree_pure content

/-- The depot over a store that is kept in a place. -/
theorem BucketDepot.overlooksJournal (store : Cell δ ObjectStore) (place : Cell δ BucketDepot) :
    (BucketDepot.depot (.toStore store) place).OverlooksJournal := by
  intro reference
  have downloads : Action.Agree (download (.toStore store) reference)
      (download (.toStore store) reference) := by
    refine (Action.agree_ofExcept _).bind fun (bucket, key) => ?_
    refine (Action.agree_updateGet store _).bind fun answer => ?_
    rcases answer with fault | answer
    · dsimp only
      split <;> exact Action.agree_fail _
    · cases answer <;> exact Action.agree_pure _
  refine downloads.bind fun body => ?_
  cases StreamHandle.outcome body.drain with
  | error fault => exact Action.agree_fail _
  | ok bytes => exact Action.agree_pure bytes

end PayloadDepot
