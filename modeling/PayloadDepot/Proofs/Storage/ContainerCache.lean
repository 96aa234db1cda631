import Mathlib.Data.Finset.Card
import PayloadDepot.Proofs.Effect
import PayloadDepot.Proofs.Table
import PayloadDepot.Storage.ContainerCache

/-!
# Slots of container caches

The slots of a cache are apart: every one of them is among those handed out, and
no two names share one.  Filling the slot of a name is then seen under that name
alone, and a name that is filled stays so until the cache is cleared.
-/

namespace PayloadDepot

variable {δ η : Type}

namespace ContainerCache

/-- Every name has a slot of its own among those that were handed out. -/
structure Separate (cache : ContainerCache η) : Prop where
  bounded : ∀ {name index}, cache.slots.get? name = some index → index < cache.cells.size
  apart : ∀ {name other index}, cache.slots.get? name = some index →
    cache.slots.get? other = some index → name = other

theorem separate_empty : (empty : ContainerCache η).Separate where
  bounded found := by cases found
  apart found := by cases found

theorem Separate.clear (cache : ContainerCache η) : cache.clear.Separate where
  bounded found := by cases found
  apart found := by cases found

section Slot

variable (cache : ContainerCache η) (name : String)

theorem get?_slots_slot :
    (cache.slot name).2.slots.get? name = some (cache.slot name).1 := by
  cases found : cache.slots.get? name with
  | some index => simp [slot, found]
  | none => simp [slot, found]

theorem filling_slot : (cache.slot name).2.filling (cache.slot name).1 = cache.get? name := by
  cases found : cache.slots.get? name with
  | some index => simp [slot, get?, found]
  | none => simp [slot, get?, filling, found]

@[simp]
theorem filling_slot_snd (index : Nat) :
    (cache.slot name).2.filling index = cache.filling index := by
  cases found : cache.slots.get? name with
  | some present => simp [slot, found]
  | none =>
      simp only [slot, found, filling, Array.getElem?_push]
      split
      · next last => simp [last]
      · rfl

theorem size_cells_le_slot : cache.cells.size ≤ (cache.slot name).2.cells.size := by
  cases found : cache.slots.get? name with
  | some index => simp [slot, found]
  | none => simp [slot, found]

/-- A lookup gives no name a slot that was handed out before. -/
theorem get?_slots_slot_eq_some_iff {index : Nat} (bounded : index < cache.cells.size)
    (other : String) :
    (cache.slot name).2.slots.get? other = some index ↔ cache.slots.get? other = some index := by
  cases found : cache.slots.get? name with
  | some present => simp [slot, found]
  | none =>
      simp only [slot, found]
      by_cases same : other = name
      · subst same
        rw [Table.get?_insert_self, found, Option.some.injEq]
        simp [Nat.ne_of_gt bounded]
      · rw [Table.get?_insert_of_ne same]

theorem nodup_keys_slot (nodup : cache.slots.keys.Nodup) :
    (cache.slot name).2.slots.keys.Nodup := by
  cases found : cache.slots.get? name with
  | some index => simpa [slot, found] using nodup
  | none =>
      simp only [slot, found]
      exact Table.nodup_keys_insert _ _ _ nodup

end Slot

@[simp]
theorem filling_clear (cache : ContainerCache η) (index : Nat) :
    cache.clear.filling index = cache.filling index := rfl

theorem Separate.slot {cache : ContainerCache η} (separate : cache.Separate) (name : String) :
    (cache.slot name).2.Separate := by
  cases found : cache.slots.get? name with
  | some index => simpa [ContainerCache.slot, found] using separate
  | none =>
      -- A name that is new gets the slot behind all others; every other entry is an earlier one.
      have entry : ∀ {other index}, (cache.slot name).2.slots.get? other = some index →
          other = name ∧ index = cache.cells.size ∨
            other ≠ name ∧ cache.slots.get? other = some index := by
        intro other index given
        simp only [ContainerCache.slot, found] at given
        by_cases same : other = name
        · subst same
          rw [Table.get?_insert_self, Option.some.injEq] at given
          exact .inl ⟨rfl, given.symm⟩
        · rw [Table.get?_insert_of_ne same] at given
          exact .inr ⟨same, given⟩
      have size : (cache.slot name).2.cells.size = cache.cells.size + 1 := by
        simp [ContainerCache.slot, found]
      constructor
      · intro other index given
        rcases entry given with ⟨-, rfl⟩ | ⟨-, earlier⟩
        · omega
        · have := separate.bounded earlier
          omega
      · intro first second index firstGiven secondGiven
        rcases entry firstGiven with ⟨rfl, rfl⟩ | ⟨-, firstEarlier⟩
        · rcases entry secondGiven with ⟨rfl, -⟩ | ⟨-, secondEarlier⟩
          · rfl
          · exact absurd (separate.bounded secondEarlier) (Nat.lt_irrefl _)
        · rcases entry secondGiven with ⟨rfl, rfl⟩ | ⟨-, secondEarlier⟩
          · exact absurd (separate.bounded firstEarlier) (Nat.lt_irrefl _)
          · exact separate.apart firstEarlier secondEarlier

/-- A new slot is empty, so it changes nothing of what names have. -/
theorem Separate.get?_slot {cache : ContainerCache η} (separate : cache.Separate)
    (name other : String) : (cache.slot name).2.get? other = cache.get? other := by
  cases found : cache.slots.get? name with
  | some index => simp [ContainerCache.slot, found]
  | none =>
      by_cases same : other = name
      · subst same
        simp [ContainerCache.slot, get?, filling, found]
      · simp only [ContainerCache.slot, get?, found, Table.get?_insert_of_ne same]
        cases earlier : cache.slots.get? other with
        | none => rfl
        | some index =>
            have bounded := separate.bounded earlier
            simp [filling, Array.getElem?_push, Nat.ne_of_lt bounded]

section Fill

variable {cache : ContainerCache η} {index : Nat}

@[simp]
theorem slots_fill (cache : ContainerCache η) (index : Nat) (handle : η) :
    (cache.fill index handle).slots = cache.slots := by
  rw [fill]
  split <;> rfl

@[simp]
theorem size_cells_fill (cache : ContainerCache η) (index : Nat) (handle : η) :
    (cache.fill index handle).cells.size = cache.cells.size := by
  rw [fill]
  split <;> simp

theorem Separate.fill (separate : cache.Separate) (index : Nat) (handle : η) :
    (cache.fill index handle).Separate where
  bounded found := by
    rw [slots_fill] at found
    rw [size_cells_fill]
    exact separate.bounded found
  apart found other := by
    rw [slots_fill] at found other
    exact separate.apart found other

/-- Filling changes an empty slot only. -/
theorem filling_fill (bounded : index < cache.cells.size) (handle : η) (other : Nat) :
    (cache.fill index handle).filling other =
      if other = index then some ((cache.filling index).getD handle) else cache.filling other := by
  rw [ContainerCache.fill]
  split
  · next present filled =>
    by_cases same : other = index <;> simp [same, filled]
  · next empty =>
    by_cases same : other = index
    · subst same
      rw [if_pos rfl, empty]
      simp [filling, bounded]
    · simp [filling, same, Array.getElem?_setIfInBounds_ne (Ne.symm same)]

/-- What fills the slot of a name is seen under that name alone. -/
theorem Separate.get?_fill (separate : cache.Separate) {name : String}
    (found : cache.slots.get? name = some index) (handle : η) (other : String) :
    (cache.fill index handle).get? other =
      if other = name then some ((cache.get? name).getD handle) else cache.get? other := by
  have named : cache.get? name = cache.filling index := by
    simp [get?, found]
  rw [get?, slots_fill, named]
  cases given : cache.slots.get? other with
  | none =>
      have different : other ≠ name := by
        rintro rfl
        rw [found] at given
        cases given
      simp [get?, given, different]
  | some otherIndex =>
      have indices : otherIndex = index ↔ other = name := by
        constructor
        · rintro rfl
          exact separate.apart given found
        · rintro rfl
          rw [found, Option.some.injEq] at given
          exact given.symm
      simp only [Option.bind_some, filling_fill (separate.bounded found), indices]
      by_cases same : other = name <;> simp [same, get?, given]

/-- A slot that is not there, or that no name has any more, may be filled without being seen. -/
theorem get?_fill_of_unnamed {index : Nat} (unnamed : ∀ name, cache.slots.get? name ≠ some index)
    (handle : η) (name : String) : (cache.fill index handle).get? name = cache.get? name := by
  rw [get?, get?, slots_fill]
  cases given : cache.slots.get? name with
  | none => rfl
  | some other =>
      have different : other ≠ index := by
        rintro rfl
        exact unnamed name given
      rw [Option.bind_some, Option.bind_some, fill]
      split
      · rfl
      · simp [filling, Array.getElem?_setIfInBounds_ne (Ne.symm different)]

end Fill

section Sizes

variable {cache : ContainerCache η}

/-- The size counts the names that have something. -/
theorem exists_size_eq_card (nodup : cache.slots.keys.Nodup) :
    ∃ names : Finset String, (∀ name, name ∈ names ↔ (cache.get? name).isSome) ∧
      cache.size = names.card := by
  let present := cache.slots.keys.filter fun name => (cache.get? name).isSome
  refine ⟨⟨present, (nodup.filter _ : present.Nodup)⟩, fun name => ?_, rfl⟩
  change name ∈ present ↔ _
  rw [List.mem_filter, ← Table.isSome_get?_iff_mem_keys]
  constructor
  · exact fun has => has.2
  · intro has
    refine ⟨?_, has⟩
    cases slotted : cache.slots.get? name with
    | some index => rfl
    | none => simp [get?, slotted] at has

theorem size_congr {other : ContainerCache η} (slots : other.slots = cache.slots)
    (same : ∀ name, other.get? name = cache.get? name) : other.size = cache.size := by
  simp [size, slots, same]

end Sizes

section GetOrCreate

variable {place : Cell δ (ContainerCache η)} {name : String} {create : Action δ η}
  {world after : World δ}

def slotting (place : Cell δ (ContainerCache η)) (name : String) (world : World δ) : World δ :=
  world.withState (place.write ((place.read world.state).slot name).2 world.state)

theorem read_slotting (lawful : place.Lawful) (name : String) (world : World δ) :
    place.read (slotting place name world).state = ((place.read world.state).slot name).2 :=
  lawful _ _

theorem on_getOrCreate (lawful : place.Lawful) (name : String) (create : Action δ η)
    (world : World δ) :
    Action.on (getOrCreate place name create) world =
      match (place.read world.state).get? name with
      | some handle => (.ok handle, slotting place name world)
      | none => Action.on (do
          let handle ← create
          Action.lift (place.update fun cache =>
            cache.fill ((place.read world.state).slot name).1 handle)
          return handle) (slotting place name world) := by
  have filled : (place.read (slotting place name world).state).filling
      ((place.read world.state).slot name).1 = (place.read world.state).get? name := by
    rw [read_slotting lawful]
    exact filling_slot _ name
  rw [getOrCreate, Action.on_lift_bind, Action.on_lift_bind]
  change Action.on (match (place.read (slotting place name world).state).filling
      ((place.read world.state).slot name).1 with
    | some handle => _
    | none => _) (slotting place name world) = _
  rw [filled]
  cases (place.read world.state).get? name <;> rfl

theorem on_getOrCreate_of_some (lawful : place.Lawful) {handle : η}
    (filled : (place.read world.state).get? name = some handle) (create : Action δ η) :
    Action.on (getOrCreate place name create) world = (.ok handle, slotting place name world) := by
  rw [on_getOrCreate lawful, filled]

theorem on_getOrCreate_of_none (lawful : place.Lawful)
    (empty : (place.read world.state).get? name = none) (create : Action δ η) :
    Action.on (getOrCreate place name create) world = Action.on (do
        let handle ← create
        Action.lift (place.update fun cache =>
          cache.fill ((place.read world.state).slot name).1 handle)
        return handle) (slotting place name world) := by
  rw [on_getOrCreate lawful, empty]

theorem on_getOrCreate_of_ok (lawful : place.Lawful) {handle : η}
    (empty : (place.read world.state).get? name = none)
    (ran : Action.on create (slotting place name world) = (.ok handle, after)) :
    Action.on (getOrCreate place name create) world =
      (.ok handle, after.withState (place.write
        ((place.read after.state).fill ((place.read world.state).slot name).1 handle)
        after.state)) :=
  (on_getOrCreate_of_none lawful empty create).trans (Action.on_bind_of_ok ran _)

theorem on_getOrCreate_of_error (lawful : place.Lawful) {fault : Fault}
    (empty : (place.read world.state).get? name = none)
    (ran : Action.on create (slotting place name world) = (.error fault, after)) :
    Action.on (getOrCreate place name create) world = (.error fault, after) :=
  (on_getOrCreate_of_none lawful empty create).trans (Action.on_bind_of_error ran _)

/-- Apart from the cache, finding or creating changes nothing, or what the creation changes. -/
theorem observe_getOrCreate {ρ : Type} {observe : World δ → ρ} (lawful : place.Lawful)
    (apart : ∀ cache world, observe (world.withState (place.write cache world.state)) =
      observe world) (name : String) (create : Action δ η) (world : World δ) :
    observe (Action.on (getOrCreate place name create) world).2 = observe world ∨
      observe (Action.on (getOrCreate place name create) world).2 =
        observe (Action.on create (slotting place name world)).2 := by
  cases filled : (place.read world.state).get? name with
  | some handle =>
      rw [on_getOrCreate_of_some lawful filled]
      exact .inl (apart _ _)
  | none =>
      rcases ran : Action.on create (slotting place name world) with ⟨fault | handle, after⟩
      · rw [on_getOrCreate_of_error lawful filled ran]
        exact .inr rfl
      · rw [on_getOrCreate_of_ok lawful filled ran]
        exact .inr (apart _ _)

end GetOrCreate

section Fits

/-- A cache has nothing for a name but what is expected for it. -/
structure Fits (cache : ContainerCache η) (expected : String → η) : Prop where
  separate : cache.Separate
  fits : ∀ {name handle}, cache.get? name = some handle → handle = expected name

variable {expected : String → η}

theorem fits_empty (expected : String → η) : (empty : ContainerCache η).Fits expected where
  separate := separate_empty
  fits found := by simp at found

theorem fits_clear (cache : ContainerCache η) (expected : String → η) :
    cache.clear.Fits expected where
  separate := .clear cache
  fits found := by simp at found

theorem Fits.slot {cache : ContainerCache η} (fits : cache.Fits expected) (name : String) :
    (cache.slot name).2.Fits expected where
  separate := fits.separate.slot name
  fits found := by
    rw [fits.separate.get?_slot] at found
    exact fits.fits found

theorem Fits.fill {cache : ContainerCache η} (fits : cache.Fits expected) {name : String}
    {index : Nat} (slotted : cache.slots.get? name = some index) :
    (cache.fill index (expected name)).Fits expected where
  separate := fits.separate.fill index _
  fits {other handle} found := by
    rw [fits.separate.get?_fill slotted] at found
    split at found
    · next same =>
      rw [Option.some.injEq] at found
      subst same found
      cases present : cache.get? other with
      | none => rfl
      | some handle => exact fits.fits present
    · exact fits.fits found

/-- An action that makes a handle in a world makes what is expected, and changes neither what a
place holds nor some other part of the world. -/
structure Makes {ρ : Type} (place : Cell δ (ContainerCache η)) (rest : World δ → ρ) (expected : η)
    (create : Action δ η) (world : World δ) : Prop where
  read : place.read (Action.on create world).2.state = place.read world.state
  rest : rest (Action.on create world).2 = rest world
  expected : ∀ {handle}, (Action.on create world).1 = .ok handle → handle = expected

/-- Finding or creating keeps a cache fitting if the creation makes what is expected; a part of the
world that neither the cache nor the creation belongs to stays as it is. -/
theorem Fits.getOrCreate {ρ : Type} {place : Cell δ (ContainerCache η)} (lawful : place.Lawful)
    {world : World δ} (fits : (place.read world.state).Fits expected) {name : String}
    {create : Action δ η} {rest : World δ → ρ}
    (makes : Makes place rest (expected name) create (slotting place name world))
    (apart : ∀ cache world, rest (world.withState (place.write cache world.state)) = rest world) :
    (place.read (Action.on (ContainerCache.getOrCreate place name create) world).2.state).Fits
        expected ∧
      rest (Action.on (ContainerCache.getOrCreate place name create) world).2 = rest world ∧
        ∀ {handle}, (Action.on (ContainerCache.getOrCreate place name create) world).1 =
          .ok handle → handle = expected name := by
  have slotted : (place.read (slotting place name world).state).Fits expected := by
    rw [read_slotting lawful]
    exact fits.slot name
  have slottedRest : rest (slotting place name world) = rest world := apart _ _
  cases filled : (place.read world.state).get? name with
  | some handle =>
      rw [on_getOrCreate_of_some lawful filled]
      refine ⟨slotted, slottedRest, ?_⟩
      rintro _ ⟨⟩
      exact fits.fits filled
  | none =>
      obtain ⟨read, kept, expects⟩ := makes
      cases ran : Action.on create (slotting place name world) with
      | mk outcome after =>
          rw [ran] at read kept expects
          cases outcome with
          | error fault =>
              rw [on_getOrCreate_of_error lawful filled ran]
              exact ⟨read ▸ slotted, kept.trans slottedRest, nofun⟩
          | ok handle =>
              obtain rfl := expects rfl
              rw [on_getOrCreate_of_ok lawful filled ran]
              refine ⟨?_, (apart _ _).trans (kept.trans slottedRest), ?_⟩
              · rw [World.withState_state, lawful, read]
                refine slotted.fill ?_
                rw [read_slotting lawful]
                exact get?_slots_slot _ _
              · rintro _ ⟨⟩
                rfl

end Fits

end ContainerCache

end PayloadDepot
