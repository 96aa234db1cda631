import PayloadDepot.Json.Reader
import PayloadDepot.Json.Writer

/-!
# Values with a JSON form

A type has a JSON form when its values can be written and read back.  Besides
arbitrary JSON values and plain texts there are numbered documents, objects of
two members in a fixed order.  A document is read from an object, whose further
members are ignored, or from the array of its two parts.
-/

namespace PayloadDepot

/-- A type whose values are written as JSON and read from it. -/
class JsonForm (ν : Type) where
  write : ν → String
  read : ByteArray → Except Json.Fault ν

/-- A body of text under a number. -/
structure Document where
  id : Nat
  body : String
deriving DecidableEq, Repr

namespace Document

/-- A document as a value: an object, whose members stand in the order of their names. -/
def toJson (document : Document) : Json :=
  .object [("body", .text document.body), ("id", .number (.natural document.id))]

/-- The document that a value is: an object with the two members or an array of the two parts. -/
def ofJson? : Json → Option Document
  | .array [.number (.natural id), .text body] => some ⟨id, body⟩
  | value =>
      match value.member? "id", value.member? "body" with
      | some (.number (.natural id)), some (.text body) => some ⟨id, body⟩
      | _, _ => none

@[simp]
theorem ofJson?_toJson (document : Document) : ofJson? document.toJson = some document := by
  rfl

def write (document : Document) : String :=
  "\x7b\"id\":" ++ toString document.id ++ ",\"body\":" ++ Json.writeText document.body ++ "\x7d"

/-- The parts of a document that were met so far. -/
structure Parts where
  id : Option Nat
  body : Option String

/-- The document of some parts; each one has to be there. -/
def Parts.finish (parts : Parts) : Except Json.Fault Document :=
  match parts.id, parts.body with
  | some id, some body => .ok ⟨id, body⟩
  | _, _ => .error .mismatched

/-- Reads the value of one member of a document; what belongs to no part is skipped. -/
def readMember (fuel : Nat) (parts : Parts) (name : String) (unread : Json.Unread) :
    Except Json.Fault (Parts × Json.Unread) :=
  if name = "id" then
    (Json.readNatural unread).map (fun (id, rest) => ({ parts with id := some id }, rest))
  else if name = "body" then
    (Json.readTextValue unread).map (fun (body, rest) => ({ parts with body := some body }, rest))
  else (Json.skipValue fuel unread).map (fun rest => (parts, rest))

/-- Reads the name of a member; its colon belongs to the value. -/
def readMemberName (unread : Json.Unread) : Except Json.Fault (String × Json.Unread) :=
  match unread with
  | 0x22 :: later => Json.readText later
  | _ => .error .malformed

/-- Whether a member would repeat a part that was already met. -/
def Parts.repeats (parts : Parts) (name : String) : Bool :=
  (name = "id" && parts.id.isSome) || (name = "body" && parts.body.isSome)

/-- Reads the members of a document's object; a part that was already met is refused before its
value is looked at. -/
def readMembers (fuel : Nat) (first : Bool) (parts : Parts) (unread : Json.Unread) :
    Except Json.Fault (Document × Json.Unread) :=
  match fuel with
  | 0 => .error .malformed
  | fuel + 1 => do
      match ← Json.readNext 0x7D first unread with
      | .finish rest => return (← parts.finish, rest)
      | .entry nameUnread =>
          let (name, colonUnread) ← readMemberName nameUnread
          if parts.repeats name then .error .mismatched
          else
            let valueUnread ← Json.readColon colonUnread
            let (extended, rest) ← readMember fuel parts name valueUnread
            readMembers fuel false extended rest

def readElements (unread : Json.Unread) : Except Json.Fault (Document × Json.Unread) := do
  match ← Json.readNext 0x5D true unread with
  | .finish _ => .error .mismatched
  | .entry idUnread =>
      let (id, idRest) ← Json.readNatural idUnread
      match ← Json.readNext 0x5D false idRest with
      | .finish _ => .error .mismatched
      | .entry bodyUnread =>
          let (body, bodyRest) ← Json.readTextValue bodyUnread
          match Json.skipBlanks bodyRest with
          | [] => .error .unfinished
          | 0x5D :: rest => return (⟨id, body⟩, rest)
          | _ :: _ => .error .malformed

/-- Reads a document from the front of a byte sequence. -/
def readValue (unread : Json.Unread) : Except Json.Fault (Document × Json.Unread) :=
  match Json.skipBlanks unread with
  | [] => .error .unfinished
  | lead :: later =>
      if lead = 0x5B then readElements later
      else if lead = 0x7B then readMembers (Json.skipFuel later) true ⟨none, none⟩ later
      else .error (Json.mismatch (lead :: later))

end Document

instance : JsonForm Json where
  write := Json.write
  read := Json.read

instance : JsonForm String where
  write := Json.writeText
  read := Json.readWhole Json.readTextValue

instance : JsonForm Document where
  write := Document.write
  read := Json.readWhole Document.readValue

end PayloadDepot
