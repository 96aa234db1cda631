import PayloadDepot.Coding.Codec
import PayloadDepot.Text.Parts

/-!
# Codecs for rehearsals

Stand-ins for codecs: one that gives nothing for everything, and one that always
fails with a given wording.  A text asks for the first one by its identifier, and
for the second one by its identifier, a colon and the wording.
-/

namespace PayloadDepot

variable {δ ν : Type}

/-- Writes nothing for every value. -/
def Serializer.absent : Serializer δ ν where
  id := "null"
  serialize _ _ _ := pure none

def Serializer.failing (wording : String) : Serializer δ ν where
  id := "fail"
  serialize _ _ _ := Action.fail (.coding (.other wording []))

/-- What the specification of a failing codec begins with. -/
def failingLead : String := "fail:"

/-- The wording in the specification of a failing codec. -/
def failingWording? (specification : String) : Option String :=
  (Text.afterLeading? failingLead.toList specification.toList).map String.ofList

/-- The stand-in that a text asks for. -/
def Serializer.standIn? (specification : String) : Option (Serializer δ ν) :=
  if specification = "null" then some absent
  else (failingWording? specification).map failing

/-- Reads nothing from all bytes. -/
def Deserializer.absent : Deserializer δ ν where
  id := "null"
  deserialize _ _ _ := pure none

def Deserializer.failing (wording : String) : Deserializer δ ν where
  id := "fail"
  deserialize _ _ _ := Action.fail (.coding (.other wording []))

def Deserializer.standIn? (specification : String) : Option (Deserializer δ ν) :=
  if specification = "null" then some absent
  else (failingWording? specification).map failing

end PayloadDepot
