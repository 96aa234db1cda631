import PayloadDepot.Fault
import PayloadDepot.Table
import PayloadDepot.Text.Blank
import PayloadDepot.Text.Lowercase
import PayloadDepot.Text.Parts

/-!
# Options

Options are texts under keys.  A number is read from its digits, with an
optional plus sign and blanks around it, and a boolean from its name in any
case.  Variables of an environment become options when their names begin with a
given lead: the rest, without leading pairs of underscores and in lower case, is
the key, in which every pair of underscores stands for a dot.
-/

namespace PayloadDepot

/-- Texts under keys. -/
abbrev Options := Table String String

namespace Options

def digit? (character : Char) : Option Nat :=
  if '0' ≤ character ∧ character ≤ '9' then some (character.toNat - '0'.toNat) else none

/-- The number below 2^64 that decimal digits write, after the number that those before them
write. -/
def readDigits (value : Nat) : List Char → Option Nat
  | [] => some value
  | character :: later =>
      match digit? character with
      | some digit =>
          if value * 10 + digit < 0x10000000000000000 then readDigits (value * 10 + digit) later
          else none
      | none => none

/-- The number below 2^64 that is written by one or more digits behind an optional plus sign. -/
def readUnsigned (characters : List Char) : Option Nat :=
  let digits :=
    match characters with
    | '+' :: later => later
    | _ => characters
  if digits.isEmpty then none else readDigits 0 digits

/-- A text without the blanks around it and with the letters A to Z in lower case. -/
def folded (raw : String) : String :=
  String.ofList ((Text.trimBlanks raw.toList).map Char.toLower)

/-- The option under a key, which has to be there. -/
def require (options : Options) (key : String) : Except Fault String :=
  match options.get? key with
  | some value => .ok value
  | none => .error (.config (.missing key))

def unsigned? (options : Options) (key : String) : Except Fault (Option Nat) :=
  match options.get? key with
  | none => .ok none
  | some raw =>
      match readUnsigned (Text.trimBlanks raw.toList) with
      | some value => .ok (some value)
      | none => .error (.config (.notUnsigned raw key))

def boolean? (options : Options) (key : String) : Except Fault (Option Bool) :=
  match options.get? key with
  | none => .ok none
  | some raw =>
      if folded raw = "true" then .ok (some true)
      else if folded raw = "false" then .ok (some false)
      else .error (.config (.notBoolean raw key))

/-- A text without its leading pairs of underscores. -/
def dropPairs : List Char → List Char
  | '_' :: '_' :: later => dropPairs later
  | characters => characters

/-- A text with a dot for each pair of underscores, from left to right. -/
def pairsToDots : List Char → List Char
  | '_' :: '_' :: later => '.' :: pairsToDots later
  | character :: later => character :: pairsToDots later
  | [] => []

/-- The key that a variable's name gives behind a lead; nothing if nothing is left of it. -/
def keyOfVariable? (lead : String) (name : String) : Option String :=
  match Text.afterLeading? lead.toList name.toList with
  | none => none
  | some rest =>
      let key := pairsToDots (Text.lowercase (String.ofList (dropPairs rest))).toList
      if key.isEmpty then none else some (String.ofList key)

/-- The options with those that variables give, one after the other. -/
def importVariables (lead : String) (options : Options) :
    (bindings : List (String × String)) → Options
  | [] => options
  | (name, value) :: later =>
      match keyOfVariable? lead name with
      | some key => importVariables lead (options.insert key value) later
      | none => importVariables lead options later

end Options

namespace DepotKind

/-- The kind that a text names, in any case and with blanks around it. -/
def parse (text : String) : Except Fault DepotKind :=
  let name := Options.folded text
  if name = "memory" then .ok .memory
  else if name = "filesystem" ∨ name = "fs" then .ok .fileSystem
  else if name = "s3" then .ok .objectStore
  else .error (.config (.unknownDepot name))

end DepotKind

end PayloadDepot
