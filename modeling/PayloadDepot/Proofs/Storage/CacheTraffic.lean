import Mathlib.Logic.Function.Basic
import PayloadDepot.Proofs.LabelledRun
import PayloadDepot.Proofs.Storage.ContainerCache

/-!
# Traffic of container caches

Many calls use a container cache at once.  A call looks the slot of its name up
in one step.  Later it finds the slot filled, or it begins a creation of its
own, which no other call does in the same slot meanwhile; the creation ends in a
handle that fills the slot or in a fault.  Between any two steps the cache may be
cleared.  Whatever the order of the steps, a slot is filled once and for all, and
all calls that share a slot come back with what the one of them made that filled
it.
-/

namespace PayloadDepot

variable {ι η : Type}

namespace CacheTraffic

/-- What a call holds from its lookup on.  The round counts the clears before the lookup. -/
structure Ticket where
  name : String
  round : Nat
  index : Nat

/-- How far a call has come. -/
inductive Stage (η : Type) where
  | waiting
  | creating
  | found (handle : η)
  | made (handle : η)
  | failed (fault : Fault)

/-- What a call came back with. -/
def Stage.result? : Stage η → Option (Except Fault η)
  | waiting | creating => none
  | found handle | made handle => some (.ok handle)
  | failed fault => some (.error fault)

structure Visit (η : Type) extends Ticket where
  stage : Stage η

inductive Event (ι η : Type) where
  | looked (call : ι) (name : String)
  | found (call : ι)
  | begun (call : ι)
  | made (call : ι) (handle : η)
  | failed (call : ι) (fault : Fault)
  | cleared

def Event.caller? : Event ι η → Option ι
  | looked call _ | found call | begun call | made call _ | failed call _ => some call
  | cleared => none

/-- Whether an event brings its call to a stage. -/
def Event.Brings : Event ι η → Stage η → Prop
  | looked _ _, stage => stage = .waiting
  | found _, stage => ∃ handle, stage = .found handle
  | begun _, stage => stage = .creating
  | made _ handle, stage => stage = .made handle
  | failed _ fault, stage => stage = .failed fault
  | cleared, _ => False

theorem Event.eq_made_of_brings {event : Event ι η} {call : ι} {handle : η}
    (own : event.caller? = some call)
    (brings : event.Brings (.made handle)) : event = .made call handle := by
  cases event <;> simp_all [Event.caller?, Event.Brings]

theorem Event.eq_failed_of_brings {event : Event ι η} {call : ι} {fault : Fault}
    (own : event.caller? = some call)
    (brings : event.Brings (.failed fault)) : event = .failed call fault := by
  cases event <;> simp_all [Event.caller?, Event.Brings]

/-- Two calls asked for one name, and the cache was not cleared between their lookups. -/
def Ticket.Companions (first second : Ticket) : Prop :=
  first.name = second.name ∧ first.round = second.round

end CacheTraffic

open CacheTraffic

/-- A cache with the calls that use it. -/
structure CacheTraffic (ι η : Type) where
  cache : ContainerCache η := .empty
  clears : Nat := 0
  visits : ι → Option (Visit η) := fun _ => none

namespace CacheTraffic

section Steps

variable [DecidableEq ι]

def looked (traffic : CacheTraffic ι η) (call : ι) (name : String) : CacheTraffic ι η where
  cache := (traffic.cache.slot name).2
  clears := traffic.clears
  visits := Function.update traffic.visits call
    (some ⟨⟨name, traffic.clears, (traffic.cache.slot name).1⟩, .waiting⟩)

def moved (traffic : CacheTraffic ι η) (call : ι) (visit : Visit η) (stage : Stage η) :
    CacheTraffic ι η :=
  { traffic with
    visits := Function.update traffic.visits call (some { visit with stage := stage }) }

def withCache (traffic : CacheTraffic ι η) (cache : ContainerCache η) : CacheTraffic ι η :=
  { traffic with cache := cache }

def cleared (traffic : CacheTraffic ι η) : CacheTraffic ι η :=
  { traffic with cache := traffic.cache.clear, clears := traffic.clears + 1 }

/-- One step of one call, or a clear. -/
inductive Step (traffic : CacheTraffic ι η) : Event ι η → CacheTraffic ι η → Prop
  | look {call : ι} (name : String) (idle : traffic.visits call = none) :
      Step traffic (.looked call name) (traffic.looked call name)
  | find {call : ι} {visit : Visit η} {handle : η} (present : traffic.visits call = some visit)
      (waits : visit.stage = .waiting)
      (filled : traffic.cache.filling visit.index = some handle) :
      Step traffic (.found call) (traffic.moved call visit (.found handle))
  | enter {call : ι} {visit : Visit η} (present : traffic.visits call = some visit)
      (waits : visit.stage = .waiting) (empty : traffic.cache.filling visit.index = none)
      (alone : ∀ {other present}, traffic.visits other = some present →
        present.index = visit.index → present.stage ≠ .creating) :
      Step traffic (.begun call) (traffic.moved call visit .creating)
  | succeed {call : ι} {visit : Visit η} (handle : η)
      (present : traffic.visits call = some visit) (creates : visit.stage = .creating) :
      Step traffic (.made call handle)
        ((traffic.moved call visit (.made handle)).withCache
          (traffic.cache.fill visit.index handle))
  | fail {call : ι} {visit : Visit η} (fault : Fault)
      (present : traffic.visits call = some visit) (creates : visit.stage = .creating) :
      Step traffic (.failed call fault) (traffic.moved call visit (.failed fault))
  | clear : Step traffic .cleared traffic.cleared

/-- Steps of the calls and clears, one after the other. -/
abbrev Run : CacheTraffic ι η → List (Event ι η) → CacheTraffic ι η → Prop :=
  LabelledRun Step

end Steps

section Tickets

variable {traffic : CacheTraffic ι η}

/-- No call that asked for a name since the last clear creates. -/
def Quiet (traffic : CacheTraffic ι η) (name : String) : Prop :=
  ∀ {other visit}, traffic.visits other = some visit → visit.name = name →
    visit.round = traffic.clears → visit.stage ≠ .creating

def ticket? (traffic : CacheTraffic ι η) (call : ι) : Option Ticket :=
  (traffic.visits call).map Visit.toTicket

theorem ticket?_of_visits {call : ι} {visit : Visit η}
    (present : traffic.visits call = some visit) :
    traffic.ticket? call = some visit.toTicket := by
  rw [ticket?, present, Option.map_some]

/-- A call keeps its ticket when it goes on. -/
theorem ticket?_moved [DecidableEq ι] {call : ι} {visit : Visit η}
    (present : traffic.visits call = some visit) (stage : Stage η) (other : ι) :
    (traffic.moved call visit stage).ticket? other = traffic.ticket? other := by
  by_cases same : other = call
  · subst same
    simp [ticket?, moved, present]
  · simp [ticket?, moved, same]

theorem ticket?_looked [DecidableEq ι] (traffic : CacheTraffic ι η) (call : ι) (name : String)
    (other : ι) :
    (traffic.looked call name).ticket? other =
      if other = call then some ⟨name, traffic.clears, (traffic.cache.slot name).1⟩
      else traffic.ticket? other := by
  by_cases same : other = call
  · subst same
    simp [ticket?, looked]
  · simp [ticket?, looked, same]

/-- The tickets fit the slots: a name has the slot of a call exactly if the call asked for it since
the last clear, and calls share a slot exactly if they are companions. -/
structure Placed (traffic : CacheTraffic ι η) : Prop where
  separate : traffic.cache.Separate
  nodup : traffic.cache.slots.keys.Nodup
  bounded : ∀ {call ticket}, traffic.ticket? call = some ticket →
    ticket.index < traffic.cache.cells.size
  round_le : ∀ {call ticket}, traffic.ticket? call = some ticket → ticket.round ≤ traffic.clears
  slot_iff : ∀ {call ticket}, traffic.ticket? call = some ticket → ∀ name,
    traffic.cache.slots.get? name = some ticket.index ↔
      name = ticket.name ∧ ticket.round = traffic.clears
  index_eq_iff : ∀ {call other ticket otherTicket}, traffic.ticket? call = some ticket →
    traffic.ticket? other = some otherTicket →
      (ticket.index = otherTicket.index ↔ ticket.Companions otherTicket)

theorem Placed.empty : Placed ({} : CacheTraffic ι η) where
  separate := ContainerCache.separate_empty
  nodup := List.nodup_nil
  bounded given := by cases given
  round_le given := by cases given
  slot_iff given := by cases given
  index_eq_iff given := by cases given

namespace Placed

theorem fill (placed : traffic.Placed) (index : Nat) (handle : η) :
    (traffic.withCache (traffic.cache.fill index handle)).Placed where
  separate := placed.separate.fill index handle
  nodup := by
    rw [withCache, ContainerCache.slots_fill]
    exact placed.nodup
  bounded given := by
    rw [withCache, ContainerCache.size_cells_fill]
    exact placed.bounded given
  round_le given := placed.round_le given
  slot_iff given name := by
    rw [withCache, ContainerCache.slots_fill]
    exact placed.slot_iff given name
  index_eq_iff := placed.index_eq_iff

theorem cleared (placed : traffic.Placed) : traffic.cleared.Placed where
  separate := .clear _
  nodup := List.nodup_nil
  bounded given := placed.bounded given
  round_le given := Nat.le_succ_of_le (placed.round_le given)
  slot_iff {call ticket} given name := by
    have earlier : ticket.round ≤ traffic.clears := placed.round_le given
    constructor
    · intro slotted
      cases slotted
    · rintro ⟨-, round⟩
      change ticket.round = traffic.clears + 1 at round
      omega
  index_eq_iff := placed.index_eq_iff

variable [DecidableEq ι]

theorem moved (placed : traffic.Placed) {call : ι} {visit : Visit η}
    (present : traffic.visits call = some visit) (stage : Stage η) :
    (traffic.moved call visit stage).Placed where
  separate := placed.separate
  nodup := placed.nodup
  bounded given := by
    rw [ticket?_moved present] at given
    exact placed.bounded given
  round_le given := by
    rw [ticket?_moved present] at given
    exact placed.round_le given
  slot_iff given := by
    rw [ticket?_moved present] at given
    exact placed.slot_iff given
  index_eq_iff given other := by
    rw [ticket?_moved present] at given other
    exact placed.index_eq_iff given other

theorem looked (placed : traffic.Placed) (call : ι) (name : String) :
    (traffic.looked call name).Placed := by
  let cache := (traffic.cache.slot name).2
  have separate : cache.Separate := placed.separate.slot name
  have slotted : cache.slots.get? name = some (traffic.cache.slot name).1 :=
    ContainerCache.get?_slots_slot _ _
  have earlier : ∀ {other ticket}, traffic.ticket? other = some ticket → ∀ asked,
      cache.slots.get? asked = some ticket.index ↔
        asked = ticket.name ∧ ticket.round = traffic.clears := by
    intro other ticket given asked
    rw [ContainerCache.get?_slots_slot_eq_some_iff _ _ (placed.bounded given)]
    exact placed.slot_iff given asked
  -- The new ticket shares its slot with those that have the slot of the name.
  have shared : ∀ {other ticket}, traffic.ticket? other = some ticket →
      ((traffic.cache.slot name).1 = ticket.index ↔
        name = ticket.name ∧ traffic.clears = ticket.round) := by
    intro other ticket given
    rw [← Option.some.injEq, ← slotted, earlier given, eq_comm (a := ticket.round)]
  refine ⟨separate, ContainerCache.nodup_keys_slot _ _ placed.nodup, ?_, ?_, ?_, ?_⟩
  · intro other ticket given
    rw [ticket?_looked] at given
    split at given
    · cases given
      exact separate.bounded slotted
    · exact Nat.lt_of_lt_of_le (placed.bounded given) (ContainerCache.size_cells_le_slot _ _)
  · intro other ticket given
    rw [ticket?_looked] at given
    split at given
    · cases given
      exact Nat.le_refl _
    · exact placed.round_le given
  · intro other ticket given asked
    rw [ticket?_looked] at given
    split at given
    · cases given
      change cache.slots.get? asked = some (traffic.cache.slot name).1 ↔ asked = name ∧ _ = _
      constructor
      · exact fun same => ⟨separate.apart same slotted, rfl⟩
      · rintro ⟨rfl, -⟩
        exact slotted
    · exact earlier given asked
  · intro first second ticket otherTicket given otherGiven
    rw [ticket?_looked] at given otherGiven
    split at given
    · cases given
      split at otherGiven
      · cases otherGiven
        exact ⟨fun _ => ⟨rfl, rfl⟩, fun _ => rfl⟩
      · exact shared otherGiven
    · split at otherGiven
      · cases otherGiven
        rw [eq_comm, Ticket.Companions, eq_comm (a := ticket.name), eq_comm (a := ticket.round)]
        exact shared given
      · exact placed.index_eq_iff given otherGiven

end Placed

end Tickets

section Fillings

/-- The stages fit the fillings: a slot in which a creation runs is empty and has no other one, and
a filled slot holds what one call has made and all that came back have. -/
structure Orderly (traffic : CacheTraffic ι η) : Prop extends traffic.Placed where
  alone : ∀ {call other visit otherVisit}, traffic.visits call = some visit →
    traffic.visits other = some otherVisit → visit.index = otherVisit.index →
      visit.stage = .creating → otherVisit.stage = .creating → call = other
  empty : ∀ {call visit}, traffic.visits call = some visit → visit.stage = .creating →
    traffic.cache.filling visit.index = none
  returned : ∀ {call visit handle}, traffic.visits call = some visit →
    visit.stage.result? = some (.ok handle) → traffic.cache.filling visit.index = some handle
  maker : ∀ {index handle}, traffic.cache.filling index = some handle →
    ∃ call visit, traffic.visits call = some visit ∧ visit.index = index ∧
      visit.stage = .made handle
  maker_unique : ∀ {call other visit otherVisit handle otherHandle},
    traffic.visits call = some visit → traffic.visits other = some otherVisit →
      visit.index = otherVisit.index → visit.stage = .made handle →
        otherVisit.stage = .made otherHandle → call = other

theorem Orderly.initial : Orderly ({} : CacheTraffic ι η) where
  toPlaced := .empty
  alone given := by cases given
  empty given := by cases given
  returned given := by cases given
  maker {index handle} filled := by
    simp [ContainerCache.filling, ContainerCache.empty] at filled
  maker_unique given := by cases given

variable [DecidableEq ι] {traffic later : CacheTraffic ι η} {event : Event ι η} {call : ι}
  {visit : Visit η}

theorem visits_moved_self (traffic : CacheTraffic ι η) (call : ι) (visit : Visit η)
    (stage : Stage η) :
    (traffic.moved call visit stage).visits call = some { visit with stage := stage } :=
  Function.update_self ..

theorem visits_moved_of_ne {other : ι} (different : other ≠ call) (traffic : CacheTraffic ι η)
    (visit : Visit η) (stage : Stage η) :
    (traffic.moved call visit stage).visits other = traffic.visits other :=
  Function.update_of_ne different ..

theorem of_visits_moved {stage : Stage η} {other : ι} {otherVisit : Visit η}
    (given : (traffic.moved call visit stage).visits other = some otherVisit) :
    other = call ∧ otherVisit = { visit with stage := stage } ∨
      other ≠ call ∧ traffic.visits other = some otherVisit := by
  by_cases same : other = call
  · subst same
    rw [visits_moved_self, Option.some.injEq] at given
    exact .inl ⟨rfl, given.symm⟩
  · rw [visits_moved_of_ne same] at given
    exact .inr ⟨same, given⟩

theorem of_visits_looked {name : String} {other : ι} {otherVisit : Visit η}
    (given : (traffic.looked call name).visits other = some otherVisit) :
    otherVisit.stage = .waiting ∨ other ≠ call ∧ traffic.visits other = some otherVisit := by
  by_cases same : other = call
  · subst same
    simp only [looked, Function.update_self, Option.some.injEq] at given
    exact .inl (given ▸ rfl)
  · simp only [looked, Function.update_of_ne same] at given
    exact .inr ⟨same, given⟩

/-- What a call holds after a step is what it held before, unless the step is its own. -/
theorem of_visits_step (step : Step traffic event later)
    (present : later.visits call = some visit) :
    traffic.visits call = some visit ∨
      event.caller? = some call ∧ event.Brings visit.stage ∧
        (event = .looked call visit.name ∨
          ∃ before, traffic.visits call = some before ∧ before.toTicket = visit.toTicket) := by
  cases step with
  | @look other name idle =>
      by_cases same : call = other
      · subst same
        simp only [looked, Function.update_self, Option.some.injEq] at present
        subst present
        exact .inr ⟨rfl, rfl, .inl rfl⟩
      · simp only [looked, Function.update_of_ne same] at present
        exact .inl present
  | find before _ _ =>
      rcases of_visits_moved present with ⟨rfl, rfl⟩ | ⟨-, kept⟩
      · exact .inr ⟨rfl, ⟨_, rfl⟩, .inr ⟨_, before, rfl⟩⟩
      · exact .inl kept
  | enter before _ _ _ =>
      rcases of_visits_moved present with ⟨rfl, rfl⟩ | ⟨-, kept⟩
      · exact .inr ⟨rfl, rfl, .inr ⟨_, before, rfl⟩⟩
      · exact .inl kept
  | succeed handle before _ =>
      rcases of_visits_moved present with ⟨rfl, rfl⟩ | ⟨-, kept⟩
      · exact .inr ⟨rfl, rfl, .inr ⟨_, before, rfl⟩⟩
      · exact .inl kept
  | fail fault before _ =>
      rcases of_visits_moved present with ⟨rfl, rfl⟩ | ⟨-, kept⟩
      · exact .inr ⟨rfl, rfl, .inr ⟨_, before, rfl⟩⟩
      · exact .inl kept
  | clear => exact .inl present

/-- Only its own lookup gives a call something to hold. -/
theorem of_visits_step_of_none (step : Step traffic event later)
    (idle : traffic.visits call = none) (present : later.visits call = some visit) :
    event = .looked call visit.name := by
  rcases of_visits_step step present with kept | ⟨-, -, looked | ⟨before, earlier, -⟩⟩
  · rw [idle] at kept
    cases kept
  · exact looked
  · rw [idle] at earlier
    cases earlier

namespace Orderly

theorem looked (orderly : traffic.Orderly) (idle : traffic.visits call = none) (name : String) :
    (traffic.looked call name).Orderly where
  toPlaced := orderly.toPlaced.looked call name
  alone given otherGiven shared creates otherCreates := by
    rcases of_visits_looked given with waits | ⟨-, given⟩
    · simp [waits] at creates
    rcases of_visits_looked otherGiven with waits | ⟨-, otherGiven⟩
    · simp [waits] at otherCreates
    exact orderly.alone given otherGiven shared creates otherCreates
  empty given creates := by
    rcases of_visits_looked given with waits | ⟨-, given⟩
    · simp [waits] at creates
    exact (ContainerCache.filling_slot_snd ..).trans (orderly.empty given creates)
  returned given result := by
    rcases of_visits_looked given with waits | ⟨-, given⟩
    · simp [waits, Stage.result?] at result
    exact (ContainerCache.filling_slot_snd ..).trans (orderly.returned given result)
  maker {index handle} filled := by
    rw [CacheTraffic.looked, ContainerCache.filling_slot_snd] at filled
    obtain ⟨other, visit, present, shared, made⟩ := orderly.maker filled
    have different : other ≠ call := by
      rintro rfl
      rw [idle] at present
      cases present
    exact ⟨other, visit, (Function.update_of_ne different ..).trans present, shared, made⟩
  maker_unique given otherGiven shared made otherMade := by
    rcases of_visits_looked given with waits | ⟨-, given⟩
    · simp [waits] at made
    rcases of_visits_looked otherGiven with waits | ⟨-, otherGiven⟩
    · simp [waits] at otherMade
    exact orderly.maker_unique given otherGiven shared made otherMade

/-- A call that has just looked its slot up may create if none of its companions does. -/
theorem alone_of_quiet (orderly : traffic.Orderly) (idle : traffic.visits call = none)
    {name : String} (quiet : traffic.Quiet name) {other : ι}
    {otherVisit : Visit η} (present : (traffic.looked call name).visits other = some otherVisit)
    (shared : otherVisit.index = (traffic.cache.slot name).1) : otherVisit.stage ≠ .creating := by
  have own : (traffic.looked call name).visits call =
      some ⟨⟨name, traffic.clears, (traffic.cache.slot name).1⟩, .waiting⟩ :=
    Function.update_self ..
  rcases of_visits_looked present with waits | ⟨-, before⟩
  · simp [waits]
  · have companions := ((orderly.looked idle name).index_eq_iff (ticket?_of_visits present)
      (ticket?_of_visits own)).mp shared
    exact quiet before companions.1 companions.2

/-- A call that has made nothing goes on to a stage that fits the filling of its slot. -/
theorem moved (orderly : traffic.Orderly) (present : traffic.visits call = some visit)
    {stage : Stage η} (unmade : ∀ handle, visit.stage ≠ .made handle ∧ stage ≠ .made handle)
    (returns : ∀ handle, stage.result? = some (.ok handle) →
      traffic.cache.filling visit.index = some handle)
    (creates : stage = .creating → traffic.cache.filling visit.index = none ∧
      ∀ {other otherVisit}, traffic.visits other = some otherVisit →
        otherVisit.index = visit.index → otherVisit.stage ≠ .creating) :
    (traffic.moved call visit stage).Orderly where
  toPlaced := orderly.toPlaced.moved present stage
  alone given otherGiven shared creating otherCreating := by
    rcases of_visits_moved given with ⟨rfl, rfl⟩ | ⟨-, before⟩
    · rcases of_visits_moved otherGiven with ⟨rfl, -⟩ | ⟨-, otherBefore⟩
      · rfl
      · exact absurd otherCreating ((creates creating).2 otherBefore shared.symm)
    · rcases of_visits_moved otherGiven with ⟨rfl, rfl⟩ | ⟨-, otherBefore⟩
      · exact absurd creating ((creates otherCreating).2 before shared)
      · exact orderly.alone before otherBefore shared creating otherCreating
  empty given creating := by
    rcases of_visits_moved given with ⟨rfl, rfl⟩ | ⟨-, given⟩
    · exact (creates creating).1
    · exact orderly.empty given creating
  returned given result := by
    rcases of_visits_moved given with ⟨rfl, rfl⟩ | ⟨-, given⟩
    · exact returns _ result
    · exact orderly.returned given result
  maker {index handle} filled := by
    obtain ⟨other, otherVisit, otherPresent, shared, made⟩ := orderly.maker filled
    have different : other ≠ call := by
      rintro rfl
      rw [present, Option.some.injEq] at otherPresent
      exact (unmade handle).1 (otherPresent ▸ made)
    exact ⟨other, otherVisit, (visits_moved_of_ne different ..).trans otherPresent, shared, made⟩
  maker_unique given otherGiven shared made otherMade := by
    rcases of_visits_moved given with ⟨rfl, rfl⟩ | ⟨-, given⟩
    · exact absurd made (unmade _).2
    rcases of_visits_moved otherGiven with ⟨rfl, rfl⟩ | ⟨-, otherGiven⟩
    · exact absurd otherMade (unmade _).2
    exact orderly.maker_unique given otherGiven shared made otherMade

omit [DecidableEq ι] in
/-- What fills the slot of a call in which its creation runs. -/
theorem filling_succeed (orderly : traffic.Orderly) (present : traffic.visits call = some visit)
    (creates : visit.stage = .creating) (handle : η) (index : Nat) :
    (traffic.cache.fill visit.index handle).filling index =
      if index = visit.index then some handle else traffic.cache.filling index := by
  rw [ContainerCache.filling_fill (orderly.bounded (ticket?_of_visits present)),
    orderly.empty present creates, Option.getD_none]

theorem succeed (orderly : traffic.Orderly) (present : traffic.visits call = some visit)
    (creates : visit.stage = .creating) (handle : η) :
    ((traffic.moved call visit (.made handle)).withCache
      (traffic.cache.fill visit.index handle)).Orderly := by
  have filled := orderly.filling_succeed present creates handle
  have empty := orderly.empty present creates
  refine ⟨(orderly.toPlaced.moved present _).fill visit.index handle, ?_, ?_, ?_, ?_, ?_⟩
  · intro first second firstVisit secondVisit given otherGiven shared creating otherCreating
    rcases of_visits_moved given with ⟨rfl, rfl⟩ | ⟨-, given⟩
    · cases creating
    rcases of_visits_moved otherGiven with ⟨rfl, rfl⟩ | ⟨-, otherGiven⟩
    · cases otherCreating
    exact orderly.alone given otherGiven shared creating otherCreating
  · intro other otherVisit given creating
    rcases of_visits_moved given with ⟨rfl, rfl⟩ | ⟨different, given⟩
    · cases creating
    have apart : otherVisit.index ≠ visit.index := fun shared =>
      different (orderly.alone given present shared creating creates)
    exact (filled _).trans ((if_neg apart).trans (orderly.empty given creating))
  · intro other otherVisit otherHandle given result
    rcases of_visits_moved given with ⟨rfl, rfl⟩ | ⟨-, given⟩
    · cases result
      exact (filled _).trans (if_pos rfl)
    have earlier := orderly.returned given result
    have apart : otherVisit.index ≠ visit.index := by
      intro shared
      rw [shared, empty] at earlier
      cases earlier
    exact (filled _).trans ((if_neg apart).trans earlier)
  · intro index otherHandle given
    rw [withCache, filled] at given
    split at given
    · next here =>
      cases given
      exact ⟨call, _, visits_moved_self .., here.symm, rfl⟩
    · obtain ⟨other, otherVisit, otherPresent, shared, made⟩ := orderly.maker given
      have different : other ≠ call := by
        rintro rfl
        rw [present, Option.some.injEq] at otherPresent
        subst otherPresent
        rw [creates] at made
        cases made
      exact ⟨other, otherVisit, (visits_moved_of_ne different ..).trans otherPresent, shared, made⟩
  · intro first second firstVisit secondVisit firstHandle secondHandle given otherGiven shared made
      otherMade
    -- No call that made something before shares the slot, since that was empty.
    have unmade : ∀ {other otherVisit otherHandle}, traffic.visits other = some otherVisit →
        otherVisit.index = visit.index → otherVisit.stage ≠ .made otherHandle := by
      intro other otherVisit otherHandle otherPresent same was
      have filled := orderly.returned otherPresent (by rw [was]; rfl)
      rw [same, empty] at filled
      cases filled
    rcases of_visits_moved given with ⟨rfl, rfl⟩ | ⟨-, before⟩
    · rcases of_visits_moved otherGiven with ⟨rfl, rfl⟩ | ⟨-, otherBefore⟩
      · rfl
      · exact absurd otherMade (unmade otherBefore shared.symm)
    · rcases of_visits_moved otherGiven with ⟨rfl, rfl⟩ | ⟨-, otherBefore⟩
      · exact absurd made (unmade before shared)
      · exact orderly.maker_unique before otherBefore shared made otherMade

theorem step (orderly : traffic.Orderly) (step : Step traffic event later) : later.Orderly := by
  cases step with
  | look name idle => exact orderly.looked idle name
  | find present waits filled =>
      refine orderly.moved present (fun handle => ⟨by simp [waits], by simp⟩) ?_ (by simp)
      rintro handle ⟨⟩
      exact filled
  | enter present waits empty alone =>
      exact orderly.moved present (fun handle => ⟨by simp [waits], by simp⟩)
        (by simp [Stage.result?]) (fun _ => ⟨empty, alone⟩)
  | succeed handle present creates => exact orderly.succeed present creates handle
  | fail fault present creates =>
      exact orderly.moved present (fun handle => ⟨by simp [creates], by simp⟩)
        (by simp [Stage.result?]) (by simp)
  | clear =>
      exact ⟨orderly.toPlaced.cleared, orderly.alone, orderly.empty, orderly.returned,
        orderly.maker, orderly.maker_unique⟩

theorem run {events : List (Event ι η)} (orderly : traffic.Orderly)
    (run : Run traffic events later) : later.Orderly :=
  run.keeps orderly fun step orderly => orderly.step step

end Orderly

end Fillings

end CacheTraffic

end PayloadDepot
