/-!
# Blank characters

The characters with the Unicode property `White_Space`, and the removal of
blanks at both ends of a text.
-/

namespace PayloadDepot

namespace Text

/-- The characters with the Unicode property `White_Space`. -/
def isBlank (character : Char) : Bool :=
  let codePoint := character.toNat
  (0x9 ≤ codePoint && codePoint ≤ 0xD) || codePoint == 0x20 || codePoint == 0x85 ||
    codePoint == 0xA0 || codePoint == 0x1680 || (0x2000 ≤ codePoint && codePoint ≤ 0x200A) ||
    codePoint == 0x2028 || codePoint == 0x2029 || codePoint == 0x202F ||
    codePoint == 0x205F || codePoint == 0x3000

/-- The characters from the first to the last one that is not blank. -/
def trimBlanks (characters : List Char) : List Char :=
  ((characters.dropWhile isBlank).reverse.dropWhile isBlank).reverse

/-- A text without the blanks at its two ends. -/
def trim (text : String) : String :=
  String.ofList (trimBlanks text.toList)

/-- Every character that core counts as white space is blank. -/
theorem isBlank_of_isWhitespace {character : Char} (white : character.isWhitespace = true) :
    isBlank character = true := by
  simp only [Char.isWhitespace, Bool.or_eq_true, decide_eq_true_eq] at white
  rcases white with ((rfl | rfl) | rfl) | rfl <;> decide

example : trim "\t a b\u00a0\u3000\n" = "a b" := by decide

end Text

end PayloadDepot
