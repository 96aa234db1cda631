/-!
# Input and output faults

A fault of the operating system or of a caller's own reader has a kind, on which
the library decides, and texts of its own and of what caused it in turn, which it
only passes on.
-/

namespace PayloadDepot

inductive IoKind where
  | other
  | interrupted
  | unexpectedEnd
  | wouldBlock
  | notFound
  | alreadyExists
  | notADirectory
  | isADirectory
  | invalidName
  | invalidInput
  | invalidData
deriving DecidableEq, Repr

/-- A fault of the operating system has no cause; one of a caller's own reader may have any. -/
structure IoFault where
  kind : IoKind
  text : String
  causes : List String := []
deriving DecidableEq, Repr

namespace IoFault

/-- The wording of a fault, followed by the wordings of what caused it. -/
def texts (fault : IoFault) : List String :=
  fault.text :: fault.causes

def notFound : IoFault := { kind := .notFound, text := "No such file or directory (os error 2)" }

def alreadyExists : IoFault := { kind := .alreadyExists, text := "File exists (os error 17)" }

def notADirectory : IoFault := { kind := .notADirectory, text := "Not a directory (os error 20)" }

def isADirectory : IoFault := { kind := .isADirectory, text := "Is a directory (os error 21)" }

/-- A name or a path is longer than the file system allows. -/
def nameTooLong : IoFault := { kind := .invalidName, text := "File name too long (os error 36)" }

/-- A path contains a NUL character. -/
def nulInName : IoFault :=
  { kind := .invalidInput, text := "file name contained an unexpected NUL byte" }

/-- A file read as text is not UTF-8. -/
def notText : IoFault := { kind := .invalidData, text := "stream did not contain valid UTF-8" }

end IoFault

end PayloadDepot
