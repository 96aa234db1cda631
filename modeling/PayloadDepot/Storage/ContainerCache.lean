import PayloadDepot.Host.World
import PayloadDepot.Table

/-!
# Container caches

A container cache remembers the container of each topic once it was found or
created.  Every name that is asked for gets a slot, and the slot is filled by
the first creation that succeeds; a creation that fails leaves it empty, so the
next caller tries again.  Clearing the cache forgets all slots.  A slot that was
handed out before stays usable for the one who holds it, but what is put into it
is no longer found under its name.
-/

namespace PayloadDepot

/-- Slots by name, and what every slot that was ever handed out is filled with. -/
structure ContainerCache (η : Type) where
  slots : Table String Nat := .empty
  cells : Array (Option η) := #[]

namespace ContainerCache

variable {δ η : Type}

def empty : ContainerCache η := {}

/-- The slot of a name, which is a new and empty one if the name has none. -/
def slot (cache : ContainerCache η) (name : String) : Nat × ContainerCache η :=
  match cache.slots.get? name with
  | some index => (index, cache)
  | none =>
      (cache.cells.size,
        { slots := cache.slots.insert name cache.cells.size, cells := cache.cells.push none })

def filling (cache : ContainerCache η) (index : Nat) : Option η :=
  (cache.cells[index]?).join

/-- The cache with a slot filled; what fills a slot already stays. -/
def fill (cache : ContainerCache η) (index : Nat) (handle : η) : ContainerCache η :=
  match cache.filling index with
  | some _ => cache
  | none => { cache with cells := cache.cells.setIfInBounds index (some handle) }

/-- What the slot of a name is filled with. -/
def get? (cache : ContainerCache η) (name : String) : Option η :=
  (cache.slots.get? name).bind cache.filling

/-- The number of names whose slot is filled. -/
def size (cache : ContainerCache η) : Nat :=
  (cache.slots.keys.filter (fun name => (cache.get? name).isSome)).length

def isEmpty (cache : ContainerCache η) : Bool :=
  cache.size = 0

/-- The cache without slots; the fillings of those handed out before are kept for their holders. -/
def clear (cache : ContainerCache η) : ContainerCache η :=
  { cache with slots := .empty }

/-- What the slot of a name is filled with; an empty one is filled by the creation first, unless
that fails. -/
def getOrCreate (place : Cell δ (ContainerCache η)) (name : String) (create : Action δ η) :
    Action δ η := do
  let index ← Action.lift (place.updateGet (fun cache => cache.slot name))
  match (← Action.lift place.load).filling index with
  | some handle => return handle
  | none =>
      let handle ← create
      Action.lift (place.update (fun cache => cache.fill index handle))
      return handle

@[simp]
theorem get?_empty (name : String) : (empty : ContainerCache η).get? name = none := rfl

@[simp]
theorem get?_clear (cache : ContainerCache η) (name : String) : cache.clear.get? name = none :=
  rfl

end ContainerCache

end PayloadDepot
