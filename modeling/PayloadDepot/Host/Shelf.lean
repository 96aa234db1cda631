import PayloadDepot.Host.World

/-!
# Shelves

Components that are set up while a program runs need places for what they
remember.  A shelf is an array in the caller's state: a new component goes to
its end, and its place is its index.
-/

namespace PayloadDepot

/-- Puts a component into the caller's state and gives its place. -/
abbrev Allocator (δ σ : Type) := σ → Effect δ (Cell δ σ)

variable {δ σ : Type}

/-- The place of one element of an array; behind the array's end there is only the given one. -/
def Cell.element (shelf : Cell δ (Array σ)) (index : Nat) (absent : σ) : Cell δ σ where
  read state := (shelf.read state).getD index absent
  write component state := shelf.write ((shelf.read state).setIfInBounds index component) state

/-- Puts components at the end of an array. -/
def Allocator.atEnd (shelf : Cell δ (Array σ)) : Allocator δ σ :=
  fun component => do
    let index ← shelf.updateGet (fun components => (components.size, components.push component))
    return shelf.element index component

end PayloadDepot
