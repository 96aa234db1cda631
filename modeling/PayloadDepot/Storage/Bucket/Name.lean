import PayloadDepot.Bytes.Hex
import PayloadDepot.Bytes.Sha1
import PayloadDepot.Text.Lowercase

/-!
# Names of buckets

The bucket of a topic is named after it.  A name that object stores allow is
used as it is; any other one is folded into lower case letters, digits and
hyphens, cut to length, and told apart from others by a hash of the name it was
folded from.
-/

namespace PayloadDepot

namespace BucketName

/-- Whether a character may stand in a folded name besides the hyphen. -/
def isAlphanumeric (character : Char) : Bool :=
  ('a' ≤ character && character ≤ 'z') || ('0' ≤ character && character ≤ '9')

/-- Characters with a single hyphen for every run of others; `afterHyphen` tells whether the
character before them became one. -/
def collapse (afterHyphen : Bool) : List Char → List Char
  | [] => []
  | character :: later =>
      if isAlphanumeric character then character :: collapse false later
      else if afterHyphen then collapse true later
      else '-' :: collapse true later

def trimEnd (characters : List Char) : List Char :=
  (characters.reverse.dropWhile (· = '-')).reverse

def trimHyphens (characters : List Char) : List Char :=
  trimEnd (characters.dropWhile (· = '-'))

/-- A name in lower case letters and digits, with single hyphens between them. -/
def fold (raw : String) : List Char :=
  trimHyphens (collapse false (Text.lowercase raw).toList)

def leastLength : Nat := 3

def greatestLength : Nat := 63

/-- The number of digits of the hash that stands at the end of a folded name. -/
def suffixLength : Nat := 8

/-- The identifier of the name space in which names are hashed. -/
def nameSpace : List UInt8 :=
  [0x6B, 0xA7, 0xB8, 0x12, 0x9D, 0xAD, 0x11, 0xD1, 0x80, 0xB4, 0x00, 0xC0, 0x4F, 0xD4, 0x30, 0xC8]

/-- The leading digits of the hash of a name inside of the name space. -/
def suffix (raw : String) : List Char :=
  (Bytes.hex (Bytes.Sha1.digest (nameSpace ++ raw.toUTF8.toList))).take suffixLength

def ofTopic (lead topic : String) : String :=
  let raw := lead ++ topic
  let folded := fold raw
  if folded = raw.toList ∧ leastLength ≤ folded.length ∧ folded.length ≤ greatestLength then raw
  else
    let base := trimEnd (folded.take (greatestLength - suffixLength - 1))
    if base.isEmpty then String.ofList (suffix raw)
    else String.ofList (base ++ '-' :: suffix raw)

end BucketName

end PayloadDepot
