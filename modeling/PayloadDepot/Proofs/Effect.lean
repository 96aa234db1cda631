import PayloadDepot.Host.World

/-!
# Running effects and actions

An effect takes a world to a result and another world, and an action to an
outcome and another world.  The equations below run them step by step, so that
no later proof looks into the monads that they are written in.  At the end stand
the laws of cells: a lawful one holds what was written to it last, and two that
are apart do not see each other's changes.
-/

namespace PayloadDepot

variable {δ σ τ α β : Type}

theorem eq_ok_of_toOption {outcome : Except Fault α} {value : α}
    (passes : outcome.toOption = some value) : outcome = .ok value := by
  cases outcome with
  | error fault => cases passes
  | ok given => exact congrArg Except.ok (Option.some.inj passes)

/-- The result of an effect and the world after it. -/
def Effect.on (effect : Effect δ α) (world : World δ) : α × World δ :=
  effect world

/-- The outcome of an action and the world after it. -/
def Action.on (action : Action δ α) (world : World δ) : Except Fault α × World δ :=
  action world

namespace Effect

@[simp]
theorem on_pure (value : α) (world : World δ) :
    on (pure value : Effect δ α) world = (value, world) := rfl

@[simp]
theorem on_bind (effect : Effect δ α) (next : α → Effect δ β) (world : World δ) :
    on (effect >>= next) world = on (next (on effect world).1) (on effect world).2 := rfl

@[simp]
theorem on_map (change : α → β) (effect : Effect δ α) (world : World δ) :
    on (change <$> effect) world = (change (on effect world).1, (on effect world).2) := rfl

@[simp]
theorem on_attempt (action : Action δ α) (world : World δ) :
    on (Action.attempt action) world = Action.on action world := rfl

@[simp]
theorem on_modify (change : World δ → World δ) (world : World δ) :
    on (modify change : Effect δ Unit) world = ((), change world) := rfl

@[simp]
theorem on_modifyGet (change : World δ → α × World δ) (world : World δ) :
    on (modifyGet change : Effect δ α) world = change world := rfl

@[simp]
theorem on_get (world : World δ) : on (get : Effect δ (World δ)) world = (world, world) := rfl

end Effect

namespace Action

@[simp]
theorem on_pure (value : α) (world : World δ) :
    on (pure value : Action δ α) world = (.ok value, world) := rfl

@[simp]
theorem on_fail (fault : Fault) (world : World δ) :
    on (fail fault : Action δ α) world = (.error fault, world) := rfl

@[simp]
theorem on_ofExcept (outcome : Except Fault α) (world : World δ) :
    on (ofExcept outcome) world = (outcome, world) := by
  cases outcome <;> rfl

@[simp]
theorem on_lift (effect : Effect δ α) (world : World δ) :
    on (lift effect) world = (.ok (Effect.on effect world).1, (Effect.on effect world).2) := rfl

/-- An action that ends in a fault ends the actions that follow it. -/
theorem on_bind (action : Action δ α) (next : α → Action δ β) (world : World δ) :
    on (action >>= next) world =
      match on action world with
      | (.ok value, after) => on (next value) after
      | (.error fault, after) => (.error fault, after) := by
  change (ExceptT.bindCont next (action world).1 (action world).2 : Except Fault β × World δ) = _
  rw [on]
  rcases action world with ⟨_ | _, _⟩ <;> rfl

theorem on_bind_of_ok {action : Action δ α} {world after : World δ} {value : α}
    (ran : on action world = (.ok value, after)) (next : α → Action δ β) :
    on (action >>= next) world = on (next value) after := by
  rw [on_bind, ran]

theorem on_bind_of_error {action : Action δ α} {world after : World δ} {fault : Fault}
    (ran : on action world = (.error fault, after)) (next : α → Action δ β) :
    on (action >>= next) world = (.error fault, after) := by
  rw [on_bind, ran]

/-- Actions that succeed one after the other succeeded each. -/
theorem exists_of_bind_ok {action : Action δ α} {next : α → Action δ β} {world after : World δ}
    {result : β} (ran : on (action >>= next) world = (.ok result, after)) :
    ∃ value middle, on action world = (.ok value, middle) ∧
      on (next value) middle = (.ok result, after) := by
  rw [on_bind] at ran
  split at ran
  · next value middle first => exact ⟨value, middle, first, ran⟩
  · cases ran

theorem on_map_of_ok {action : Action δ α} {world after : World δ} {value : α}
    (ran : on action world = (.ok value, after)) (change : α → β) :
    on (change <$> action) world = (.ok (change value), after) := by
  rw [map_eq_pure_bind, on_bind_of_ok ran, on_pure]

theorem on_map_of_error {action : Action δ α} {world after : World δ} {fault : Fault}
    (ran : on action world = (.error fault, after)) (change : α → β) :
    on (change <$> action) world = (.error fault, after) := by
  rw [map_eq_pure_bind, on_bind_of_error ran]

@[simp]
theorem on_lift_bind (effect : Effect δ α) (next : α → Action δ β) (world : World δ) :
    on (lift effect >>= next) world =
      on (next (Effect.on effect world).1) (Effect.on effect world).2 := rfl

@[simp]
theorem on_ofExcept_bind (outcome : Except Fault α) (next : α → Action δ β) (world : World δ) :
    on (ofExcept outcome >>= next) world =
      match outcome with
      | .ok value => on (next value) world
      | .error fault => (.error fault, world) := by
  rw [on_bind, on_ofExcept]
  cases outcome <;> rfl

end Action

namespace World

def withJournal (world : World δ) (journal : Array JournalLine) : World δ :=
  { world with journal := journal }

def withState (world : World δ) (state : τ) : World τ :=
  { world with state := state }

/-- The world after a state was changed, lines were added and names were issued. -/
def progressed (world : World δ) (state : δ) (journal : Array JournalLine)
    (namesIssued : Nat) : World δ :=
  { world with state := state, journal := journal, namesIssued := namesIssued }

@[simp]
theorem withState_state (world : World δ) (state : τ) : (world.withState state).state = state :=
  rfl

@[simp]
theorem withJournal_state (world : World δ) (journal : Array JournalLine) :
    (world.withJournal journal).state = world.state := rfl

@[simp]
theorem progressed_state (world : World δ) (state : δ) (journal : Array JournalLine)
    (namesIssued : Nat) : (world.progressed state journal namesIssued).state = state := rfl

@[simp]
theorem withJournal_journal (world : World δ) : world.withJournal world.journal = world := rfl

@[simp]
theorem on_log (level : Level) (text : String) (world : World δ) :
    Effect.on (log level text) world =
      ((), world.withJournal (world.journal.push ⟨level, text⟩)) := rfl

@[simp]
theorem on_freshName (world : World δ) :
    Effect.on (freshName : Effect δ String) world =
      (world.nameSource world.namesIssued,
        { world with namesIssued := world.namesIssued + 1 }) := rfl

@[simp]
theorem on_files? (world : World δ) :
    Effect.on (files? : Effect δ FileSystem) world = (world.files, world) := rfl

@[simp]
theorem on_onFiles (change : FileSystem → α × FileSystem) (world : World δ) :
    Effect.on (onFiles change) world =
      ((change world.files).1, { world with files := (change world.files).2 }) := rfl

@[simp]
theorem on_now (world : World δ) : Effect.on (now : Effect δ Int) world = (world.clock, world) :=
  rfl

end World

namespace Cell

@[simp]
theorem on_load (place : Cell δ σ) (world : World δ) :
    Effect.on place.load world = (place.read world.state, world) := rfl

@[simp]
theorem on_update (place : Cell δ σ) (change : σ → σ) (world : World δ) :
    Effect.on (place.update change) world =
      ((), world.withState (place.write (change (place.read world.state)) world.state)) := rfl

@[simp]
theorem on_updateGet (place : Cell δ σ) (change : σ → α × σ) (world : World δ) :
    Effect.on (place.updateGet change) world =
      ((change (place.read world.state)).1,
        world.withState (place.write (change (place.read world.state)).2 world.state)) := rfl

/-- A cell holds what was written to it last. -/
def Lawful (place : Cell δ σ) : Prop :=
  ∀ content state, place.read (place.write content state) = content

/-- Writing to one of two cells changes nothing in the other. -/
structure Apart (left : Cell δ σ) (right : Cell δ τ) : Prop where
  read_left : ∀ content state, left.read (right.write content state) = left.read state
  read_right : ∀ content state, right.read (left.write content state) = right.read state

def left : Cell (σ × τ) σ where
  read := Prod.fst
  write content state := (content, state.2)

def right : Cell (σ × τ) τ where
  read := Prod.snd
  write content state := (state.1, content)

theorem lawful_whole : (whole : Cell σ σ).Lawful := fun _ _ => rfl

theorem lawful_left : (left : Cell (σ × τ) σ).Lawful := fun _ _ => rfl

theorem lawful_right : (right : Cell (σ × τ) τ).Lawful := fun _ _ => rfl

theorem apart_left_right : (left : Cell (σ × τ) σ).Apart right where
  read_left _ _ := rfl
  read_right _ _ := rfl

end Cell

end PayloadDepot
