import PayloadDepot.Text.Lowercase.Table

/-!
# Lower case

The full lower case mapping of the Unicode standard.  Every character maps on
its own, to one character or, for the dotted capital I, to two; only the capital
sigma looks at its surroundings, since it becomes a final sigma at the end of a
word.
-/

namespace PayloadDepot

namespace Text

namespace LowercaseRun

def covers (run : LowercaseRun) (codePoint : Nat) : Bool :=
  run.first ≤ codePoint && codePoint ≤ run.last && (codePoint - run.first) % run.step == 0

end LowercaseRun

/-- The lower case of one character outside of any context. -/
def lowercaseCharacter (character : Char) : List Char :=
  if character.toNat < 0x80 then
    [character.toLower]
  else if character.toNat = 0x130 then
    ['i', Char.ofNat 0x307]
  else
    match lowercaseRuns.find? (·.covers character.toNat) with
    | some run => [Char.ofNat (character.toNat + run.distance).toNat]
    | none => [character]

/-- Whether the first character that is not case-ignorable is cased. -/
def meetsCased (characters : List Char) : Bool :=
  match characters.dropWhile caseIgnorableCharacters.contains with
  | [] => false
  | character :: _ => casedCharacters.contains character

/-- The lower case of a capital sigma between the characters before it, nearest first, and
those after it: the final form at the end of a word. -/
def lowercaseSigma (before after : List Char) : Char :=
  if meetsCased before && !meetsCased after then 'ς' else 'σ'

/-- The lower case of the characters that follow those of `before`, nearest first. -/
def lowercaseAfter (before : List Char) : List Char → List Char
  | [] => []
  | character :: later =>
      (if character = 'Σ' then [lowercaseSigma before later] else lowercaseCharacter character) ++
        lowercaseAfter (character :: before) later

def lowercase (text : String) : String :=
  String.ofList (lowercaseAfter [] text.toList)

@[simp]
theorem lowercaseAfter_nil (before : List Char) : lowercaseAfter before [] = [] := rfl

/-- A character of the ASCII range maps as core maps it. -/
theorem lowercaseCharacter_of_ascii {character : Char} (ascii : character.toNat < 0x80) :
    lowercaseCharacter character = [character.toLower] := by
  simp [lowercaseCharacter, ascii]

end Text

end PayloadDepot
