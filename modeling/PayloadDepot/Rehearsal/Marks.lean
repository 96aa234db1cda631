import PayloadDepot.Host.BlobName

/-!
# Marks

What a rehearsal shows should not depend on where and when it runs.  So the
path of its root, the address of its store and the names of payloads are shown
by marks.  The name of a payload under a reference that was issued is marked
with the place of that reference among all that were issued.
-/

namespace PayloadDepot

/-- What is shown by marks: a path, an address, and the names in the references that were
issued. -/
structure Marks where
  root : String
  address : String
  issued : List String

namespace Marks

/-- The mark of a payload's name. -/
def ofName (marks : Marks) (name : List Char) : List Char :=
  match marks.issued.findIdx? (·.endsWith (String.ofList name)) with
  | some index => s!"<uuid:{index + 1}>".toList
  | none => "<uuid>".toList

def onText (marks : Marks) (text : String) : String :=
  let located := (text.replace marks.root "<root>").replace marks.address "<endpoint>"
  String.ofList (BlobName.replaceNames marks.ofName located.toList)

/-- Bytes with marks; each byte is looked at as a character of its own. -/
def onBytes (marks : Marks) (bytes : ByteArray) : ByteArray :=
  let text := marks.onText (String.ofList (bytes.toList.map Char.ofUInt8))
  ⟨(text.toList.map Char.toUInt8).toArray⟩

end Marks

end PayloadDepot
