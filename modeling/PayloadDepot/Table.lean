/-!
# Tables

A table binds keys to values in the order in which the keys were first bound.
Binding a key again replaces its value in place.  Looking a key up after a
binding gives the new value for that key and the old one for every other.
-/

namespace PayloadDepot

/-- Keys with their values, in the order in which the keys were first bound. -/
structure Table (κ α : Type) where
  entries : List (κ × α) := []
deriving Repr

namespace Table

variable {κ α : Type} [DecidableEq κ]

def empty : Table κ α := {}

/-- The value of the first entry under a key. -/
def lookupIn (key : κ) : List (κ × α) → Option α
  | [] => none
  | (other, value) :: later => if key = other then some value else lookupIn key later

/-- Entries with a value put under a key. -/
def bindIn (key : κ) (value : α) : List (κ × α) → List (κ × α)
  | [] => [(key, value)]
  | (other, present) :: later =>
      if key = other then (key, value) :: later else (other, present) :: bindIn key value later

def get? (table : Table κ α) (key : κ) : Option α :=
  lookupIn key table.entries

def insert (table : Table κ α) (key : κ) (value : α) : Table κ α :=
  ⟨bindIn key value table.entries⟩

def contains (table : Table κ α) (key : κ) : Bool :=
  (table.get? key).isSome

/-- The bound keys, in the order of their first binding. -/
def keys (table : Table κ α) : List κ :=
  table.entries.map Prod.fst

/-- Entries with one put before the first of them whose key is greater. -/
def insertInOrder (entry : String × α) : List (String × α) → List (String × α)
  | [] => [entry]
  | other :: later =>
      if entry.1 < other.1 then entry :: other :: later else other :: insertInOrder entry later

def sortedEntries (table : Table String α) : List (String × α) :=
  table.entries.foldl (fun sorted entry => insertInOrder entry sorted) []

def sortedKeys (table : Table String α) : List String :=
  table.sortedEntries.map Prod.fst

/-- The table of some pairs; of several with one key the last counts. -/
def ofList (pairs : List (κ × α)) : Table κ α :=
  pairs.foldl (fun table pair => table.insert pair.1 pair.2) empty

@[simp]
theorem get?_empty (key : κ) : (empty : Table κ α).get? key = none := rfl

theorem lookupIn_bindIn_self (key : κ) (value : α) (entries : List (κ × α)) :
    lookupIn key (bindIn key value entries) = some value := by
  induction entries with
  | nil => simp [bindIn, lookupIn]
  | cons entry later inductionHypothesis =>
    obtain ⟨other, present⟩ := entry
    by_cases same : key = other <;> simp [bindIn, lookupIn, same]
    simpa [same] using inductionHypothesis

theorem lookupIn_bindIn_of_ne {key other : κ} (different : other ≠ key) (value : α)
    (entries : List (κ × α)) :
    lookupIn other (bindIn key value entries) = lookupIn other entries := by
  induction entries with
  | nil => simp [bindIn, lookupIn, different]
  | cons entry later inductionHypothesis =>
    obtain ⟨first, present⟩ := entry
    by_cases same : key = first
    · subst same
      simp [bindIn, lookupIn, different]
    · by_cases found : other = first <;> simp [bindIn, lookupIn, same, found]
      simpa [found] using inductionHypothesis

@[simp]
theorem get?_insert_self (table : Table κ α) (key : κ) (value : α) :
    (table.insert key value).get? key = some value :=
  lookupIn_bindIn_self key value table.entries

theorem get?_insert_of_ne {key other : κ} (different : other ≠ key) (table : Table κ α)
    (value : α) : (table.insert key value).get? other = table.get? other :=
  lookupIn_bindIn_of_ne different value table.entries

end Table

end PayloadDepot
