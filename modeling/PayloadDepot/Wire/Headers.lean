import PayloadDepot.Bytes.Equality

/-!
# Record headers

The headers of a record are an ordered multimap from names to bytes.  Entries
are added at the end, several may share a name, and removing a name removes all
of its entries and leaves the order of the others as it was.
-/

namespace PayloadDepot

structure Header where
  key : String
  value : ByteArray
deriving DecidableEq

/-- Headers in the order in which they were added. -/
structure Headers where
  entries : List Header := []
deriving DecidableEq

namespace Headers

def empty : Headers := {}

/-- The headers with one more at the end. -/
def add (headers : Headers) (key : String) (value : ByteArray) : Headers :=
  ⟨headers.entries ++ [⟨key, value⟩]⟩

/-- The values under a name, in order. -/
def values (headers : Headers) (key : String) : List ByteArray :=
  (headers.entries.filter (fun header => header.key = key)).map Header.value

def first? (headers : Headers) (key : String) : Option ByteArray :=
  (headers.entries.find? (fun header => header.key = key)).map Header.value

def last? (headers : Headers) (key : String) : Option ByteArray :=
  (headers.entries.reverse.find? (fun header => header.key = key)).map Header.value

def contains (headers : Headers) (key : String) : Bool :=
  headers.entries.any (fun header => header.key = key)

def remove (headers : Headers) (key : String) : Headers :=
  ⟨headers.entries.filter (fun header => header.key ≠ key)⟩

def size (headers : Headers) : Nat :=
  headers.entries.length

def isEmpty (headers : Headers) : Bool :=
  headers.entries.isEmpty

@[simp]
theorem size_add (headers : Headers) (key : String) (value : ByteArray) :
    (headers.add key value).size = headers.size + 1 := by
  simp [size, add]

@[simp]
theorem values_add_self (headers : Headers) (key : String) (value : ByteArray) :
    (headers.add key value).values key = headers.values key ++ [value] := by
  simp [values, add]

theorem values_add_of_ne {key other : String} (different : key ≠ other) (headers : Headers)
    (value : ByteArray) : (headers.add key value).values other = headers.values other := by
  simp [values, add, different]

@[simp]
theorem values_remove_self (headers : Headers) (key : String) :
    (headers.remove key).values key = [] := by
  simp [values, remove, List.filter_filter]

theorem first?_eq_head? (headers : Headers) (key : String) :
    headers.first? key = (headers.values key).head? := by
  rw [first?, values, List.head?_map, List.head?_filter]

theorem last?_eq_getLast? (headers : Headers) (key : String) :
    headers.last? key = (headers.values key).getLast? := by
  rw [last?, values, List.getLast?_map, List.getLast?_eq_head?_reverse, ← List.filter_reverse,
    List.head?_filter]

theorem contains_iff_values_ne_nil (headers : Headers) (key : String) :
    headers.contains key = true ↔ headers.values key ≠ [] := by
  simp [contains, values]

end Headers

end PayloadDepot
