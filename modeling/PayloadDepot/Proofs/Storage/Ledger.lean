import PayloadDepot.Proofs.Effect
import PayloadDepot.Storage.Depot

/-!
# Depots with a ledger

A depot with a ledger does what the depot inside of it does and enters every
call and its answer into a list that stands beside the state.  The depot inside
does not see the list, so what is entered is the whole truth about it, whatever
the depot does with the rest of the world.
-/

namespace PayloadDepot

variable {δ σ τ α : Type}

/-- An action on a state that has something else beside it, which stays as it is. -/
def Action.beside (action : Action δ α) : Action (δ × τ) α :=
  fun world =>
    let ran := action.on (world.withState world.state.1)
    (ran.1, ran.2.withState (ran.2.state, world.state.2))

def Effect.beside (effect : Effect δ α) : Effect (δ × τ) α :=
  fun world =>
    let ran := effect.on (world.withState world.state.1)
    (ran.1, ran.2.withState (ran.2.state, world.state.2))

def Cell.beside (place : Cell δ σ) : Cell (δ × τ) σ where
  read state := place.read state.1
  write content state := (place.write content state.1, state.2)

/-- A call of a depot and what it was answered with. -/
inductive DepotEntry where
  | checkIn (topic : String) (payload : ByteArray) (answer : Except Fault Reference)
  | checkInStream (topic : String) (length : Nat) (answer : Except Fault Reference)
  | checkOut (reference : Reference) (answer : Except Fault ByteArray)
  | checkOutStream (reference : Reference) (answer : Except Fault StreamHandle)
  | close

/-- The fault that a check-in was answered with, of a payload or of a stream. -/
def DepotEntry.checkInFault? : DepotEntry → Option Fault
  | checkIn _ _ (.error fault) => some fault
  | checkInStream _ _ (.error fault) => some fault
  | _ => none

/-- The calls of a depot in the order in which they were answered. -/
abbrev Ledger := List DepotEntry

namespace Ledger

def enter (entry : DepotEntry) : Effect (δ × Ledger) Unit :=
  modify fun world => world.withState (world.state.1, world.state.2 ++ [entry])

/-- Runs a call of a depot and enters it with its answer. -/
def entering (entry : Except Fault α → DepotEntry) (call : Action δ α) : Action (δ × Ledger) α :=
  do
    let answer ← Action.lift (Action.attempt call.beside)
    Action.lift (enter (entry answer))
    Action.ofExcept answer

/-- A call is answered as the depot inside answers it, and is entered once. -/
theorem on_entering (entry : Except Fault α → DepotEntry) (call : Action δ α)
    (world : World (δ × Ledger)) :
    Action.on (entering entry call) world =
      let ran := call.on (world.withState world.state.1)
      (ran.1, ran.2.withState (ran.2.state, world.state.2 ++ [entry ran.1])) := by
  rw [entering, Action.on_lift_bind, Action.on_lift_bind, Action.on_ofExcept]
  rfl

end Ledger

/-- The depot whose calls are entered into a ledger with their answers. -/
def Depot.ledgered (depot : Depot δ) : Depot (δ × Ledger) where
  name := depot.name
  checkIn topic payload := Ledger.entering (.checkIn topic payload) (depot.checkIn topic payload)
  checkInStream topic source length :=
    Ledger.entering (.checkInStream topic length) (depot.checkInStream topic source length)
  checkOut reference := Ledger.entering (.checkOut reference) (depot.checkOut reference)
  checkOutStream reference :=
    Ledger.entering (.checkOutStream reference) (depot.checkOutStream reference)
  close := do
    depot.close.beside
    Ledger.enter .close

theorem Depot.ledger_checkIn {depot : Depot δ} {topic : String} {payload : ByteArray}
    {world after : World (δ × Ledger)} {outcome : Except Fault Reference}
    (answered : Action.on (depot.ledgered.checkIn topic payload) world = (outcome, after)) :
    after.state.2 = world.state.2 ++ [.checkIn topic payload outcome] := by
  rw [ledgered, Ledger.on_entering] at answered
  cases answered
  rfl

theorem Depot.ledger_checkInStream {depot : Depot δ} {topic : String} {source : StreamHandle}
    {length : Nat} {world after : World (δ × Ledger)} {outcome : Except Fault Reference}
    (answered : Action.on (depot.ledgered.checkInStream topic source length) world =
      (outcome, after)) :
    after.state.2 = world.state.2 ++ [.checkInStream topic length outcome] := by
  rw [ledgered, Ledger.on_entering] at answered
  cases answered
  rfl

end PayloadDepot
