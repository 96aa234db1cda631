import PayloadDepot.Json.Basic

/-!
# Looking into JSON values

A value is taken apart by what it is expected to be.  A member that is not there
is looked at as null.
-/

namespace PayloadDepot

namespace Json

/-- The member of an object with a given name, or null. -/
def field (value : Json) (name : String) : Json :=
  (value.member? name).getD .null

def isNull : Json → Bool
  | .null => true
  | _ => false

/-- The whole number that a value is. -/
def integer? : Json → Option Int
  | .number (.natural value) => some value
  | .number (.negative value) => some value
  | _ => none

/-- The whole number that a value is, if it is not negative. -/
def natural? (value : Json) : Option Nat :=
  value.integer?.bind fun number => if number < 0 then none else some number.toNat

/-- The truth value that a value is; null stands for false. -/
def flag? : Json → Option Bool
  | .boolean value => some value
  | .null => some false
  | _ => none

/-- The elements of an array; null stands for an empty one. -/
def elements? : Json → Option (List Json)
  | .array elements => some elements
  | .null => some []
  | _ => none

/-- The members of an object; null stands for an empty one. -/
def members? : Json → Option (List (String × Json))
  | .object members => some members
  | .null => some []
  | _ => none

def ofInt (value : Int) : Json :=
  if value < 0 then .number (.negative value) else .number (.natural value.toNat)

@[simp]
theorem integer?_ofInt (value : Int) : (ofInt value).integer? = some value := by
  unfold ofInt
  split
  · rfl
  · simp only [integer?, Option.some.injEq]
    omega

end Json

end PayloadDepot
