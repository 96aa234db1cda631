import PayloadDepot.Text.Quoted.Table

/-!
# Quoted texts

How a text is shown between double quotes inside a message: quotes, backslashes
and the usual control characters have short escapes, and every other character
that would be invisible, or would join with the one before it, is shown by its
code point.
-/

namespace PayloadDepot

namespace Text

/-- The code point of a character in lower case hexadecimal, without leading zeros. -/
def hexCodePoint (character : Char) : List Char :=
  Nat.toDigits 16 character.toNat

/-- One character as it is shown between double quotes. -/
def quoteCharacter (character : Char) : List Char :=
  if character = '"' then ['\\', '"']
  else if character = '\\' then ['\\', '\\']
  else if character = '\n' then ['\\', 'n']
  else if character = '\r' then ['\\', 'r']
  else if character = '\t' then ['\\', 't']
  else if character.toNat = 0 then ['\\', '0']
  else if hiddenCharacters.contains character then
    ['\\', 'u', '\x7b'] ++ hexCodePoint character ++ ['\x7d']
  else [character]

/-- A text as it is shown inside a message, quotes included. -/
def quoted (text : String) : String :=
  String.ofList ('"' :: text.toList.flatMap quoteCharacter ++ ['"'])

end Text

end PayloadDepot
