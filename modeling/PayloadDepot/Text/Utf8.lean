/-!
# Reading UTF-8

Bytes that are not UTF-8 are refused with the place of the first fault, or, in
the lenient reading, replaced piece by piece.  A faulty piece is the longest
run of bytes that could still have begun a character, so each one is reported
and replaced as a whole.
-/

namespace PayloadDepot

namespace Text

namespace Utf8

/-- Where a byte sequence stops being UTF-8. -/
inductive Fault where
  | malformed (index length : Nat)
  | unfinished (index : Nat)
deriving DecidableEq, Repr

namespace Fault

def message : Fault → String
  | malformed index length => s!"invalid utf-8 sequence of {length} bytes from index {index}"
  | unfinished index => s!"incomplete utf-8 byte sequence from index {index}"

end Fault

/-- What a byte sequence begins with: a character of some width, a faulty piece of some length,
or a character that the sequence ends inside of. -/
inductive Piece where
  | character (width : Nat)
  | malformed (length : Nat)
  | unfinished
deriving DecidableEq, Repr

/-- The width of the character that a leading byte announces, with the least and the greatest
second byte it allows. -/
def announced (lead : UInt8) : Option (Nat × UInt8 × UInt8) :=
  if lead < 0x80 then some (1, 0, 0)
  else if lead < 0xC2 then none
  else if lead < 0xE0 then some (2, 0x80, 0xBF)
  else if lead = 0xE0 then some (3, 0xA0, 0xBF)
  else if lead = 0xED then some (3, 0x80, 0x9F)
  else if lead < 0xF0 then some (3, 0x80, 0xBF)
  else if lead = 0xF0 then some (4, 0x90, 0xBF)
  else if lead < 0xF4 then some (4, 0x80, 0xBF)
  else if lead = 0xF4 then some (4, 0x80, 0x8F)
  else none

/-- The piece whose first `seen` bytes were accepted and that still needs some continuations. -/
def continuePiece : (needed seen : Nat) → List UInt8 → Piece
  | 0, seen, _ => .character seen
  | _ + 1, _, [] => .unfinished
  | needed + 1, seen, byte :: later =>
      if 0x80 ≤ byte && byte ≤ 0xBF then continuePiece needed (seen + 1) later
      else .malformed seen

def firstPiece (lead : UInt8) (later : List UInt8) : Piece :=
  match announced lead with
  | none => .malformed 1
  | some (width, least, greatest) =>
      if width = 1 then .character 1
      else
        match later with
        | [] => .unfinished
        | second :: rest =>
            if least ≤ second && second ≤ greatest then continuePiece (width - 2) 2 rest
            else .malformed 1

/-- The first fault of a byte sequence whose first byte has the given index. -/
def firstFault (index : Nat) : List UInt8 → Option Fault
  | [] => none
  | lead :: later =>
      match firstPiece lead later with
      | .character width => firstFault (index + width) (later.drop (width - 1))
      | .malformed length => some (.malformed index length)
      | .unfinished => some (.unfinished index)
termination_by bytes => bytes.length
decreasing_by
  simp only [List.length_cons, List.length_drop]
  omega

def characterOf (bytes : List UInt8) : Char :=
  match bytes with
  | [] => Char.ofNat 0xFFFD
  | lead :: continuations =>
      let leadBits :=
        match continuations.length with
        | 0 => lead.toNat
        | 1 => lead.toNat % 0x20
        | 2 => lead.toNat % 0x10
        | _ => lead.toNat % 0x08
      Char.ofNat (continuations.foldl (fun bits byte => bits * 0x40 + byte.toNat % 0x40) leadBits)

/-- The characters of a byte sequence, with the replacement character for each faulty piece. -/
def lenientCharacters : List UInt8 → List Char
  | [] => []
  | lead :: later =>
      match firstPiece lead later with
      | .character width =>
          characterOf (lead :: later.take (width - 1)) ::
            lenientCharacters (later.drop (width - 1))
      | .malformed length => Char.ofNat 0xFFFD :: lenientCharacters (later.drop (length - 1))
      | .unfinished => [Char.ofNat 0xFFFD]
termination_by bytes => bytes.length
decreasing_by
  all_goals
    simp only [List.length_cons, List.length_drop]
    omega

/-- The text that some bytes encode, or the first fault among them. -/
def decode (bytes : ByteArray) : Except Fault String :=
  match String.fromUTF8? bytes with
  | some text => .ok text
  | none => .error ((firstFault 0 bytes.toList).getD (.unfinished bytes.size))

/-- The text that some bytes encode, with the replacement character for each faulty piece. -/
def decodeLenient (bytes : ByteArray) : String :=
  match String.fromUTF8? bytes with
  | some text => text
  | none => String.ofList (lenientCharacters bytes.toList)

theorem fromUTF8?_toByteArray (text : String) :
    String.fromUTF8? text.toByteArray = some text := by
  simp only [String.fromUTF8?, String.fromUTF8]
  split
  · rfl
  · next invalid => exact absurd text.isValidUTF8 invalid

@[simp]
theorem decode_toByteArray (text : String) : decode text.toByteArray = .ok text := by
  simp only [decode, fromUTF8?_toByteArray]

@[simp]
theorem decodeLenient_toByteArray (text : String) : decodeLenient text.toByteArray = text := by
  simp only [decodeLenient, fromUTF8?_toByteArray]

example : firstFault 0 [0x61, 0xF0, 0x90, 0x8D] = some (.unfinished 1) := by cbv

example : lenientCharacters [0x61, 0xE2, 0x82, 0x62] = ['a', '\uFFFD', 'b'] := by cbv

end Utf8

end Text

end PayloadDepot
