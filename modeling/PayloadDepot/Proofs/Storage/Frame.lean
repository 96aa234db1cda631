import Mathlib.Logic.Relation
import PayloadDepot.Proofs.Storage.Redemption

/-!
# What calls of depots leave alone

An action leaves a part of the world alone if that part is the same afterwards,
however the action ends.  A run of a depot is any sequence of its calls, with
anything else in between that leaves alone what the depot keeps.
-/

namespace PayloadDepot

variable {δ σ τ α β ρ : Type}

def Effect.Leaves (observe : World δ → ρ) (effect : Effect δ α) : Prop :=
  ∀ world, observe (Effect.on effect world).2 = observe world

/-- Whatever an action ends in, some part of the world is as it was before. -/
def Action.Leaves (observe : World δ → ρ) (action : Action δ α) : Prop :=
  ∀ world, observe (Action.on action world).2 = observe world

namespace Action.Leaves

variable {observe : World δ → ρ}

theorem pure (value : α) : Leaves observe (Pure.pure value : Action δ α) :=
  fun _ => rfl

theorem fail (fault : Fault) : Leaves observe (Action.fail fault : Action δ α) :=
  fun _ => rfl

theorem ofExcept (outcome : Except Fault α) :
    Leaves observe (Action.ofExcept outcome : Action δ α) := by
  intro world
  rw [on_ofExcept]

theorem lift {effect : Effect δ α} (leaves : effect.Leaves observe) :
    Leaves observe (Action.lift effect) :=
  fun world => leaves world

theorem attempt {action : Action δ α} (leaves : Leaves observe action) :
    Leaves observe (Action.lift (Action.attempt action)) :=
  fun world => leaves world

/-- What an action leaves alone is as the action before it left it. -/
theorem observe_bind {next : α → Action δ β} (second : ∀ value, Leaves observe (next value))
    (action : Action δ α) (world : World δ) :
    observe (Action.on (action >>= next) world).2 = observe (Action.on action world).2 := by
  rw [on_bind]
  rcases ran : on action world with ⟨fault | value, after⟩
  · rfl
  · exact second value after

theorem bind {action : Action δ α} {next : α → Action δ β} (first : Leaves observe action)
    (second : ∀ value, Leaves observe (next value)) : Leaves observe (action >>= next) :=
  fun world => (observe_bind second action world).trans (first world)

theorem mapM {act : α → Action δ β} (each : ∀ value, Leaves observe (act value))
    (values : List α) : Leaves observe (values.mapM act) := by
  induction values with
  | nil => exact .pure []
  | cons value later inductionHypothesis =>
      rw [List.mapM_cons]
      exact (each value).bind fun _ => inductionHypothesis.bind fun _ => .pure _

/-- What depends on a part that is left alone is left alone too. -/
theorem map {action : Action δ α} (leaves : Leaves observe action) (part : ρ → τ) :
    Leaves (fun world => part (observe world)) action :=
  fun world => congrArg part (leaves world)

end Action.Leaves

/-- The readers behind streams and the names of payloads to come. -/
def World.supplies (world : World δ) : Array Reader × (Nat → String) :=
  (world.readers, world.nameSource)

/-- What all depots keep, and the names of payloads to come. -/
def World.holdings (world : World δ) : δ × (Nat → String) :=
  (world.state, world.nameSource)

namespace Cell

/-- What lies in one place, and the names of payloads to come. -/
def held (place : Cell δ σ) (world : World δ) : σ × (Nat → String) :=
  (place.read world.state, world.nameSource)

/-- What lies in a place fits, and payloads get their names from one source. -/
structure Stands (place : Cell δ σ) (fits : σ → Prop) (names : Nat → String)
    (world : World δ) : Prop where
  fits : fits (place.read world.state)
  named : world.nameSource = names

variable {place : Cell δ σ} {fits : σ → Prop} {names : Nat → String} {world after : World δ}

theorem Stands.of_held_eq {content : σ} (held : place.held after = (content, names))
    (fitting : fits content) : Stands place fits names after where
  fits := by
    have read : place.read after.state = content := congrArg Prod.fst held
    rw [read]
    exact fitting
  named := congrArg Prod.snd held

theorem Stands.of_held (stands : Stands place fits names world)
    (same : place.held after = place.held world) : Stands place fits names after :=
  .of_held_eq (same.trans (Prod.ext rfl stands.named)) stands.fits

/-- Whatever lies in a place is shut at most once. -/
theorem held_shut (lawful : place.Lawful) (closed : σ → Bool) (shut : σ → σ) (name : String)
    (world : World δ) :
    place.held (Effect.on (do
      let wasClosed ← place.updateGet fun content =>
        (closed content, if closed content then content else shut content)
      if !wasClosed then Depot.logClosed name) world).2 =
        (if closed (place.read world.state) then place.read world.state
          else shut (place.read world.state), world.nameSource) := by
  rw [Effect.on_bind, on_updateGet]
  dsimp only
  cases closed (place.read world.state) <;> exact Prod.ext (lawful _ _) rfl

end Cell

/-- A call that checks a payload or a stream in. -/
inductive CheckInCall where
  | whole (topic : String) (payload : ByteArray)
  | stream (topic : String) (source : StreamHandle) (length : Nat)

namespace CheckInCall

def topic : CheckInCall → String
  | whole topic _ => topic
  | stream topic _ _ => topic

def on (depot : Depot δ) : CheckInCall → Action δ Reference
  | whole topic payload => depot.checkIn topic payload
  | stream topic source length => depot.checkInStream topic source length

end CheckInCall

namespace Depot

/-- One call of a depot, or anything else that leaves alone what the depot keeps in its place. -/
inductive Step (depot : Depot δ) (place : Cell δ σ) (world : World δ) : World δ → Prop
  | checkIn (topic : String) (payload : ByteArray) :
      Step depot place world (Action.on (depot.checkIn topic payload) world).2
  | checkInStream (topic : String) (source : StreamHandle) (length : Nat) :
      Step depot place world (Action.on (depot.checkInStream topic source length) world).2
  | checkOut (reference : Reference) :
      Step depot place world (Action.on (depot.checkOut reference) world).2
  | checkOutStream (reference : Reference) :
      Step depot place world (Action.on (depot.checkOutStream reference) world).2
  | close : Step depot place world (Effect.on depot.close world).2
  | elsewhere {after : World δ} (same : place.held after = place.held world) :
      Step depot place world after

/-- Some calls of a depot one after the other, with anything else between them. -/
def Leads (depot : Depot δ) (place : Cell δ σ) : World δ → World δ → Prop :=
  Relation.ReflTransGen (Step depot place)

/-- What fits at first, and still does after every call, fits after a run. -/
theorem Leads.stands {depot : Depot δ} {place : Cell δ σ} {start world : World δ}
    {fits : σ → Prop} {names : Nat → String} (leads : Leads depot place start world)
    (first : place.Stands fits names start)
    (preserved : ∀ {before after}, Step depot place before after →
      place.Stands fits names before → place.Stands fits names after) :
    place.Stands fits names world := by
  induction leads with
  | refl => exact first
  | tail _ step inductionHypothesis => exact preserved step inductionHypothesis

end Depot

section Streams

variable {source : StreamHandle} {length : Nat} {world after : World δ}

theorem StreamHandle.available_congr (readers : after.readers = world.readers) :
    source.available after = source.available world := by
  rw [available, items, reader, readers, available, items, reader]

/-- What was read of a stream for its declared length. -/
structure StreamHandle.Delivers (source : StreamHandle) (length : Nat) (world : World δ)
    (payload : ByteArray) : Prop where
  bytes : payload.data.toList = (source.available world).take length
  size : payload.size = length

theorem StreamHandle.Delivers.of_take {payload : ByteArray}
    (enough : length ≤ (source.available world).length)
    (taken : payload.data.toList = (source.available world).take length) :
    source.Delivers length world payload where
  bytes := taken
  size := by
    have count := congrArg List.length taken
    rw [List.length_take_of_le enough] at count
    simpa using count

/-- What is read behind what was read before belongs to one longer part. -/
theorem StreamHandle.Delivers.append {first second : ByteArray} {more : Nat}
    (delivers : source.Delivers length world first)
    (left : source.available after = (source.available world).drop length)
    (next : source.Delivers more after second) :
    source.Delivers (length + more) world (first ++ second) where
  bytes := by
    rw [ByteArray.data_append, Array.toList_append, delivers.bytes, next.bytes, left,
      List.take_add]
  size := by
    rw [ByteArray.size_append, delivers.size, next.size]

theorem Depot.leaves_readDeclared (source : StreamHandle) (length : Nat) :
    Action.Leaves (fun world : World δ => (world.holdings, world.files))
      (readDeclared source length) := by
  intro world
  rcases Nat.lt_or_ge (source.available world).length length with short | enough
  · obtain ⟨fault, readers, read⟩ := on_readDeclared_of_lt short
    rw [read]
    rfl
  · obtain ⟨bytes, readers, read, -, -⟩ := on_readDeclared_of_le enough
    rw [read]
    rfl

/-- A stream that was read for its declared length delivered it, and nothing else changed. -/
theorem Depot.of_readDeclared_ok {bytes : ByteArray}
    (read : Action.on (readDeclared source length) world = (.ok bytes, after)) :
    source.Delivers length world bytes ∧
      source.available after = (source.available world).drop length ∧
        (after.holdings, after.files) = (world.holdings, world.files) := by
  rcases Nat.lt_or_ge (source.available world).length length with short | enough
  · obtain ⟨fault, readers, failed⟩ := on_readDeclared_of_lt short
    rw [failed] at read
    cases read
  · obtain ⟨taken, readers, ran, bytes, left⟩ := on_readDeclared_of_le enough
    rw [ran] at read
    cases read
    refine ⟨.of_take enough bytes, ?_, rfl⟩
    rw [StreamHandle.available, left]
    exact Item.available_behind enough

end Streams

/-- A depot redeems what it issues for a topic: the payload that was checked in, and of a stream the
bytes that were read for the declared length. -/
structure Depot.RedeemsIssued (depot : Depot δ) (topic : String) (world : World δ) : Prop where
  checkIn : ∀ {payload reference after},
    Action.on (depot.checkIn topic payload) world = (.ok reference, after) →
      depot.Redeems reference payload after
  checkInStream : ∀ {source length reference after},
    Action.on (depot.checkInStream topic source length) world = (.ok reference, after) →
      ∃ payload, source.Delivers length world payload ∧ depot.Redeems reference payload after

/-- A depot refuses whatever is checked in for a topic. -/
structure Depot.Refuses (depot : Depot δ) (topic : String) (world : World δ) : Prop where
  checkIn : ∀ payload, ∃ fault, (Action.on (depot.checkIn topic payload) world).1 = .error fault
  checkInStream : ∀ source length, ∃ fault,
    (Action.on (depot.checkInStream topic source length) world).1 = .error fault

end PayloadDepot
