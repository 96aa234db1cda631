import PayloadDepot.Bytes.Hex

/-!
# Names of payloads

A name of a payload has the form of a random identifier: thirty-six characters,
which are lower case hexadecimal digits in five groups joined by hyphens, with a
four at the head of the third group and one of four digits at the head of the
fourth.  The payloads of a run can be named by numbers, and the names that a
text mentions can be replaced.
-/

namespace PayloadDepot

namespace BlobName

def lastDigits : (width number : Nat) → List Char
  | 0, _ => []
  | width + 1, number => lastDigits width (number / 16) ++ [Bytes.hexDigit (number % 16)]

/-- The first four groups of the names of a series, which write its last eighteen digits. -/
def lead (series : Nat) : List Char :=
  lastDigits 8 (series / 0x10000000000) ++ '-' :: lastDigits 4 (series / 0x1000000) ++
    '-' :: '4' :: lastDigits 3 (series / 0x1000) ++ '-' :: '8' :: lastDigits 3 series ++ ['-']

def ofNumber (series number : Nat) : String :=
  String.ofList (lead series ++ lastDigits 12 number)

def isDigit (character : Char) : Bool :=
  ('0' ≤ character && character ≤ '9') || ('a' ≤ character && character ≤ 'f')

/-- The form of a name: an `x` stands for any digit, a `v` for one of four, and every other
character for itself. -/
def form : List Char :=
  "xxxxxxxx-xxxx-4xxx-vxxx-xxxxxxxxxxxx".toList

/-- Whether a character may stand in the place of one of the form. -/
def fits (expected character : Char) : Bool :=
  if expected = 'x' then isDigit character
  else if expected = 'v' then character = '8' || character = '9' || character = 'a' ||
    character = 'b'
  else character = expected

/-- Whether a text begins with characters of a form. -/
def beginsWith : (form text : List Char) → Bool
  | [], _ => true
  | _ :: _, [] => false
  | expected :: form, character :: text => fits expected character && beginsWith form text

/-- A text with something else in the place of every name that it mentions. -/
def replaceNames (replacement : List Char → List Char) : List Char → List Char
  | [] => []
  | character :: later =>
      if beginsWith form (character :: later) then
        replacement ((character :: later).take 36) ++ replaceNames replacement (later.drop 35)
      else character :: replaceNames replacement later
termination_by text => text.length
decreasing_by all_goals (simp only [List.length_cons, List.length_drop]; omega)

@[simp]
theorem length_lastDigits (width number : Nat) : (lastDigits width number).length = width := by
  induction width generalizing number with
  | zero => rfl
  | succ width inductionHypothesis => simp [lastDigits, inductionHypothesis]

@[simp]
theorem length_lead (series : Nat) : (lead series).length = 24 := by
  simp [lead]

/-- The name of a number always has thirty-six characters. -/
@[simp]
theorem length_ofNumber (series number : Nat) : (ofNumber series number).length = 36 := by
  simp [ofNumber]

theorem hexDigit_ne_slash (value : Nat) : Bytes.hexDigit (value % 16) ≠ '/' := by
  have small : value % 16 < 16 := Nat.mod_lt _ (by decide)
  generalize value % 16 = digit at small
  revert digit
  decide

theorem slash_not_mem_lastDigits (width number : Nat) : '/' ∉ lastDigits width number := by
  induction width generalizing number with
  | zero => simp [lastDigits]
  | succ width inductionHypothesis =>
    simp [lastDigits, inductionHypothesis, (hexDigit_ne_slash number).symm]

theorem slash_not_mem_lead (series : Nat) : '/' ∉ lead series := by
  simp [lead, slash_not_mem_lastDigits]

/-- The name of a number is a single component of a path. -/
theorem slash_not_mem_ofNumber (series number : Nat) :
    '/' ∉ (ofNumber series number).toList := by
  simp [ofNumber, slash_not_mem_lead, slash_not_mem_lastDigits]

example : ofNumber 0xABC 5 = "00000000-0000-4000-8abc-000000000005" := by decide

end BlobName

end PayloadDepot
