import PayloadDepot.Json.NumberReader

/-!
# Reading JSON texts

The bytes between two quotes, with their escapes resolved, have to be UTF-8.
An escaped character outside of the basic plane is written as two escapes, a
leading and a trailing surrogate; a surrogate on its own is refused.  A text
that is only skipped is checked for its escapes, but neither for its encoding
nor for its surrogates.
-/

namespace PayloadDepot

namespace Json

def hexValue? (byte : UInt8) : Option Nat :=
  if 0x30 ≤ byte && byte ≤ 0x39 then some (byte.toNat - 0x30)
  else if 0x61 ≤ byte && byte ≤ 0x66 then some (byte.toNat - 0x57)
  else if 0x41 ≤ byte && byte ≤ 0x46 then some (byte.toNat - 0x37)
  else none

/-- The number that four hexadecimal digits write, at the front of a text. -/
def readFourHex : Unread → Except Fault Nat
  | first :: second :: third :: fourth :: _ =>
      match hexValue? first, hexValue? second, hexValue? third, hexValue? fourth with
      | some a, some b, some c, some d => .ok (((a * 16 + b) * 16 + c) * 16 + d)
      | _, _, _, _ => .error .malformed
  | _ => .error .unfinished

/-- The code point of an escape by number from behind its letter on, with the number of bytes it
takes. -/
def readCodePoint (unread : Unread) : Except Fault (Nat × Nat) := do
  let unit ← readFourHex unread
  if 0xDC00 ≤ unit && unit ≤ 0xDFFF then .error .malformed
  else if unit < 0xD800 || 0xDBFF < unit then .ok (unit, 4)
  else
    match unread.drop 4 with
    | [] => .error .unfinished
    | 0x5C :: [] => .error .unfinished
    | 0x5C :: 0x75 :: later => do
        let trailing ← readFourHex later
        if 0xDC00 ≤ trailing && trailing ≤ 0xDFFF then
          .ok ((unit - 0xD800) * 0x400 + (trailing - 0xDC00) + 0x10000, 10)
        else .error .malformed
    | _ :: _ => .error .malformed

/-- The byte that a short escape stands for. -/
def shortEscape? (letter : UInt8) : Option UInt8 :=
  if letter = 0x22 || letter = 0x5C || letter = 0x2F then some letter
  else if letter = 0x62 then some 0x08
  else if letter = 0x66 then some 0x0C
  else if letter = 0x6E then some 0x0A
  else if letter = 0x72 then some 0x0D
  else if letter = 0x74 then some 0x09
  else none

/-- The bytes that an escape stands for, from behind the backslash on, with the number of bytes
it takes. -/
def readEscape : Unread → Except Fault (List UInt8 × Nat)
  | [] => .error .unfinished
  | letter :: later =>
      match shortEscape? letter with
      | some byte => .ok ([byte], 1)
      | none =>
          if letter = 0x75 then
            match readCodePoint later with
            | .ok (codePoint, length) =>
                .ok (String.utf8EncodeChar (Char.ofNat codePoint), length + 1)
            | .error fault => .error fault
          else .error .malformed

/-- The bytes of a text from behind its opening quote on, after those already collected. -/
def readTextBytes (collected : ByteArray) : Unread → Except Fault (ByteArray × Unread)
  | [] => .error .unfinished
  | byte :: later =>
      if byte = 0x22 then .ok (collected, later)
      else if byte = 0x5C then
        match readEscape later with
        | .ok (bytes, length) => readTextBytes (bytes.foldl ByteArray.push collected)
            (later.drop length)
        | .error fault => .error fault
      else if byte < 0x20 then .error .malformed
      else readTextBytes (collected.push byte) later
termination_by unread => unread.length
decreasing_by
  · simp only [List.length_cons, List.length_drop]
    omega
  · simp

def readText (unread : Unread) : Except Fault (String × Unread) :=
  match readTextBytes ByteArray.empty unread with
  | .ok (bytes, rest) =>
      match String.fromUTF8? bytes with
      | some decoded => .ok (decoded, rest)
      | none => .error .malformed
  | .error fault => .error fault

def skipEscape : Unread → Except Fault Nat
  | [] => .error .unfinished
  | letter :: later =>
      if (shortEscape? letter).isSome then .ok 1
      else if letter = 0x75 then
        match readFourHex later with
        | .ok _ => .ok 5
        | .error fault => .error fault
      else .error .malformed

def skipText : Unread → Except Fault Unread
  | [] => .error .unfinished
  | byte :: later =>
      if byte = 0x22 then .ok later
      else if byte = 0x5C then
        match skipEscape later with
        | .ok length => skipText (later.drop length)
        | .error fault => .error fault
      else if byte < 0x20 then .error .malformed
      else skipText later
termination_by unread => unread.length
decreasing_by
  · simp only [List.length_cons, List.length_drop]
    omega
  · simp

end Json

end PayloadDepot
