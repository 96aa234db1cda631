import PayloadDepot.Fault
import PayloadDepot.Text.Parts

/-!
# References

A reference stands for a payload that a depot keeps.  It is the depot's scheme,
the name of a container, a slash, and the name of the payload inside of the
container.
-/

namespace PayloadDepot

/-- The text under which a depot hands a payload out again. -/
structure Reference where
  text : String
deriving DecidableEq, Repr

namespace Reference

def compose (scheme container name : String) : Reference :=
  ⟨scheme ++ container ++ "/" ++ name⟩

def toBytes (reference : Reference) : ByteArray :=
  reference.text.toUTF8

def ofBytes (bytes : ByteArray) : Except Fault Reference :=
  match Text.Utf8.decode bytes with
  | .ok text => .ok ⟨text⟩
  | .error fault => .error (.contract (.referenceEncoding fault))

/-- The container and the name in a reference of a scheme; neither is empty and neither contains
a slash. -/
def parts? (scheme : List Char) (reference : List Char) : Option (List Char × List Char) :=
  match Text.afterLeading? scheme reference with
  | none => none
  | some rest =>
      match Text.splitAtFirst? '/' rest with
      | none => none
      | some (container, name) =>
          if container = [] ∨ name = [] ∨ '/' ∈ name then none else some (container, name)

/-- The container and the name that a reference of a scheme leads to; any other reference is a
bad one. -/
def locate (scheme : String) (reference : Reference) : Except Fault (String × String) :=
  match parts? scheme.toList reference.text.toList with
  | some (container, name) => .ok (String.ofList container, String.ofList name)
  | none => .error (.badReference reference.text)

@[simp]
theorem ofBytes_toBytes (reference : Reference) : ofBytes reference.toBytes = .ok reference := by
  simp [ofBytes, toBytes]

end Reference

end PayloadDepot
