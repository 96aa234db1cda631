import PayloadDepot.Json.Basic
import PayloadDepot.Bytes.Hex

/-!
# Writing JSON

JSON is written without blanks.  Inside a text only quotes, backslashes and
control characters are escaped.  A double is written with its shortest digits,
plainly where its magnitude is at least 10^-5 and less than 10^16.
-/

namespace PayloadDepot

namespace Json

/-- Doubles between 10^-5 and 10^16 are written without a power of ten. -/
def doubleLayout : Decimal.Layout where
  leastPoint := -4
  greatestPoint := 16

def writeNumber : JsonNumber → String
  | .natural value => toString value
  | .negative value => toString value
  | .double value => Decimal.shortest doubleLayout value

def escapeCharacter (character : Char) : String :=
  if character = '"' then "\\\""
  else if character = '\\' then "\\\\"
  else if character = '\x08' then "\\b"
  else if character = '\x0C' then "\\f"
  else if character = '\n' then "\\n"
  else if character = '\r' then "\\r"
  else if character = '\t' then "\\t"
  else if character.toNat < 0x20 then
    "\\u00" ++ String.ofList (Bytes.hexOfByte (UInt8.ofNat character.toNat))
  else character.toString

/-- A text between quotes, behind what was written before it. -/
def writeTextOnto (written text : String) : String :=
  text.foldl (fun extended character => extended ++ escapeCharacter character) (written ++ "\"") ++
    "\""

def writeText (text : String) : String :=
  writeTextOnto "" text

mutual

/-- The text of a value, without blanks, behind what was written before it. -/
def writeOnto (written : String) : Json → String
  | .null => written ++ "null"
  | .boolean true => written ++ "true"
  | .boolean false => written ++ "false"
  | .number value => written ++ writeNumber value
  | .text value => writeTextOnto written value
  | .array elements => writeElementsOnto (written ++ "[") true elements ++ "]"
  | .object members => writeMembersOnto (written ++ "\x7b") true members ++ "\x7d"

/-- The elements of an array, with a comma before each but the first. -/
def writeElementsOnto (written : String) (first : Bool) : List Json → String
  | [] => written
  | element :: later =>
      writeElementsOnto (writeOnto (if first then written else written ++ ",") element) false later

/-- The members of an object, with a comma before each but the first. -/
def writeMembersOnto (written : String) (first : Bool) : List (String × Json) → String
  | [] => written
  | (name, value) :: later =>
      let named := writeTextOnto (if first then written else written ++ ",") name
      writeMembersOnto (writeOnto (named ++ ":") value) false later

end

def write (value : Json) : String :=
  writeOnto "" value

example :
    write (.object [("a", .array [.null, .boolean true]), ("b", .text "\n")]) =
      "\x7b\"a\":[null,true],\"b\":\"\\n\"\x7d" := by
  cbv

end Json

end PayloadDepot
