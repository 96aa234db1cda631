import PayloadDepot.Decimal.Shortest

/-!
# JSON values

A JSON value keeps the members of an object in ascending order of their names
and each name once.  Whole numbers that fit sixty-four bits are exact, signed or
unsigned; every other number is a double.
-/

namespace PayloadDepot

/-- A JSON number: exact if it is whole and fits sixty-four bits, a double otherwise. -/
inductive JsonNumber where
  | natural (value : Nat)
  | negative (value : Int)
  | double (value : Float)
deriving Repr

inductive Json where
  | null
  | boolean (value : Bool)
  | number (value : JsonNumber)
  | text (value : String)
  | array (elements : List Json)
  | object (members : List (String × Json))
deriving Repr, Inhabited

namespace Json

/-- Members with one added in the order of the names; a member of the same name is replaced. -/
def insertMember (name : String) (value : Json) :
    List (String × Json) → List (String × Json)
  | [] => [(name, value)]
  | (otherName, otherValue) :: later =>
      if name < otherName then (name, value) :: (otherName, otherValue) :: later
      else if name = otherName then (name, value) :: later
      else (otherName, otherValue) :: insertMember name value later

/-- The member of an object with a given name. -/
def member? (value : Json) (name : String) : Option Json :=
  match value with
  | .object members => members.lookup name
  | _ => none

/-- Why a text is not the JSON value that is asked for: it is not JSON, it ends too early, or
its shape is another one. -/
inductive Fault where
  | malformed
  | unfinished
  | mismatched
deriving DecidableEq, Repr

def Fault.message : Fault → String
  | malformed => "malformed JSON"
  | unfinished => "JSON text ended too early"
  | mismatched => "JSON value of another shape"

end Json

end PayloadDepot
