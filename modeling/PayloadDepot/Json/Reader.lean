import PayloadDepot.Json.TextReader

/-!
# Reading JSON values

A value is read from the front of a byte sequence.  Arrays and objects may be
nested at most 127 deep.  What is read element by element stops at the first
fault, so a text that ends too early is told apart from one that is malformed.
Besides the reading of a whole value there are the readings of a value whose
shape is known beforehand, and the skipping of a value of any depth.
-/

namespace PayloadDepot

namespace Json

/-- Whether a byte is a blank between the tokens of a JSON text. -/
def isBlankByte (byte : UInt8) : Bool :=
  byte = 0x20 || byte = 0x0A || byte = 0x09 || byte = 0x0D

def skipBlanks (unread : Unread) : Unread :=
  unread.dropWhile isBlankByte

def readKeyword : (letters unread : Unread) → Except Fault Unread
  | [], rest => .ok rest
  | _ :: _, [] => .error .unfinished
  | letter :: letters, byte :: rest =>
      if letter = byte then readKeyword letters rest else .error .malformed

def nullLetters : Unread := [0x75, 0x6C, 0x6C]

def trueLetters : Unread := [0x72, 0x75, 0x65]

def falseLetters : Unread := [0x61, 0x6C, 0x73, 0x65]

def readColon (unread : Unread) : Except Fault Unread :=
  match skipBlanks unread with
  | [] => .error .unfinished
  | 0x3A :: rest => .ok rest
  | _ :: _ => .error .malformed

/-- What may come next inside an array or an object: its end, or an entry at the front of what
is unread. -/
inductive Next where
  | finish (rest : Unread)
  | entry (unread : Unread)

/-- Decides what comes next before a closing byte: entries are separated by commas, and a comma
is followed by an entry. -/
def readNext (closing : UInt8) (first : Bool) (unread : Unread) : Except Fault Next :=
  match skipBlanks unread with
  | [] => .error .unfinished
  | byte :: rest =>
      if byte = closing then .ok (.finish rest)
      else if first then .ok (.entry (byte :: rest))
      else if byte = 0x2C then
        match skipBlanks rest with
        | [] => .error .unfinished
        | next :: later =>
            if next = closing then .error .malformed else .ok (.entry (next :: later))
      else .error .malformed

/-- Reads the name of a member and its colon. -/
def readName (unread : Unread) : Except Fault (String × Unread) :=
  match unread with
  | 0x22 :: later =>
      match readText later with
      | .ok (name, rest) =>
          match readColon rest with
          | .ok valueUnread => .ok (name, valueUnread)
          | .error fault => .error fault
      | .error fault => .error fault
  | _ => .error .malformed

mutual

/-- Reads a value; inside it arrays and objects may be nested less than `depth` deep. -/
def readValue (fuel depth : Nat) (unread : Unread) : Except Fault (Json × Unread) :=
  match fuel with
  | 0 => .error .malformed
  | fuel + 1 =>
      match skipBlanks unread with
      | [] => .error .unfinished
      | lead :: later =>
          if lead = 0x6E then (readKeyword nullLetters later).map (fun rest => (.null, rest))
          else if lead = 0x74 then
            (readKeyword trueLetters later).map (fun rest => (.boolean true, rest))
          else if lead = 0x66 then
            (readKeyword falseLetters later).map (fun rest => (.boolean false, rest))
          else if lead = 0x22 then
            (readText later).map (fun (decoded, rest) => (.text decoded, rest))
          else if lead = 0x2D then
            (readNumber true later).map (fun (numeral, rest) => (.number numeral, rest))
          else if isDigit lead then
            (readNumber false (lead :: later)).map (fun (numeral, rest) => (.number numeral, rest))
          else if lead = 0x5B then
            if depth ≤ 1 then .error .malformed
            else readElements fuel (depth - 1) true [] later
          else if lead = 0x7B then
            if depth ≤ 1 then .error .malformed
            else readMembers fuel (depth - 1) true [] later
          else .error .malformed

/-- Reads the elements of an array behind those already read, which are in reverse order. -/
def readElements (fuel depth : Nat) (first : Bool) (elements : List Json) (unread : Unread) :
    Except Fault (Json × Unread) :=
  match fuel with
  | 0 => .error .malformed
  | fuel + 1 =>
      match readNext 0x5D first unread with
      | .error fault => .error fault
      | .ok (.finish rest) => .ok (.array elements.reverse, rest)
      | .ok (.entry elementUnread) =>
          match readValue fuel depth elementUnread with
          | .error fault => .error fault
          | .ok (element, rest) => readElements fuel depth false (element :: elements) rest

/-- Reads the members of an object behind those already read. -/
def readMembers (fuel depth : Nat) (first : Bool) (members : List (String × Json))
    (unread : Unread) : Except Fault (Json × Unread) :=
  match fuel with
  | 0 => .error .malformed
  | fuel + 1 =>
      match readNext 0x7D first unread with
      | .error fault => .error fault
      | .ok (.finish rest) => .ok (.object members, rest)
      | .ok (.entry nameUnread) =>
          match readName nameUnread with
          | .error fault => .error fault
          | .ok (name, valueUnread) =>
              match readValue fuel depth valueUnread with
              | .error fault => .error fault
              | .ok (value, rest) =>
                  readMembers fuel depth false (insertMember name value members) rest

end

/-- One more than the number of arrays and objects that may be nested. -/
def depthLimit : Nat := 128

/-- Accepts only blanks behind a value. -/
def readEnd (unread : Unread) : Except Fault Unit :=
  match skipBlanks unread with
  | [] => .ok ()
  | _ :: _ => .error .malformed

def readWhole {ν : Type} (read : Unread → Except Fault (ν × Unread)) (bytes : ByteArray) :
    Except Fault ν :=
  match read bytes.data.toList with
  | .error fault => .error fault
  | .ok (value, rest) =>
      match readEnd rest with
      | .ok () => .ok value
      | .error fault => .error fault

/-- The JSON value that some bytes write. -/
def read (bytes : ByteArray) : Except Fault Json :=
  readWhole (readValue (2 * bytes.size + 2) depthLimit) bytes

/-- The fault of a value that is present, but not of the shape asked for: arrays and objects are
not looked into, anything else has to be well formed. -/
def mismatch (unread : Unread) : Fault :=
  let outcome : Except Fault Unit :=
    match unread with
    | [] => .error .unfinished
    | lead :: later =>
        if lead = 0x6E then (readKeyword nullLetters later).map (fun _ => ())
        else if lead = 0x74 then (readKeyword trueLetters later).map (fun _ => ())
        else if lead = 0x66 then (readKeyword falseLetters later).map (fun _ => ())
        else if lead = 0x22 then (readText later).map (fun _ => ())
        else if lead = 0x2D then (readNumber true later).map (fun _ => ())
        else if isDigit lead then (readNumber false (lead :: later)).map (fun _ => ())
        else if lead = 0x5B || lead = 0x7B then .ok ()
        else .error .malformed
  match outcome with
  | .ok () => .mismatched
  | .error fault => fault

def readNatural (unread : Unread) : Except Fault (Nat × Unread) :=
  let expectNatural (outcome : Except Fault (JsonNumber × Unread)) :
      Except Fault (Nat × Unread) :=
    match outcome with
    | .ok (.natural value, rest) => .ok (value, rest)
    | .ok _ => .error .mismatched
    | .error fault => .error fault
  match skipBlanks unread with
  | [] => .error .unfinished
  | lead :: later =>
      if lead = 0x2D then expectNatural (readNumber true later)
      else if isDigit lead then expectNatural (readNumber false (lead :: later))
      else .error (mismatch (lead :: later))

def readTextValue (unread : Unread) : Except Fault (String × Unread) :=
  match skipBlanks unread with
  | [] => .error .unfinished
  | lead :: later =>
      if lead = 0x22 then readText later else .error (mismatch (lead :: later))

/-- Where the skipping of a value stands. -/
inductive SkipPoint where
  | value
  | opened
  | entry
  | after

/-- Skips a value.  The enclosing arrays and objects are listed from the innermost outwards, an
array as true. -/
def skipFrom (fuel : Nat) (point : SkipPoint) (enclosing : List Bool) (unread : Unread) :
    Except Fault Unread :=
  match fuel with
  | 0 => .error .malformed
  | fuel + 1 =>
      let scalar (outcome : Except Fault Unread) : Except Fault Unread :=
        match outcome with
        | .ok rest => skipFrom fuel .after enclosing rest
        | .error fault => .error fault
      match point, enclosing with
      | .after, [] => .ok unread
      | .opened, [] => .ok unread
      | .value, _ =>
          match skipBlanks unread with
          | [] => .error .unfinished
          | lead :: later =>
              if lead = 0x6E then scalar (readKeyword nullLetters later)
              else if lead = 0x74 then scalar (readKeyword trueLetters later)
              else if lead = 0x66 then scalar (readKeyword falseLetters later)
              else if lead = 0x22 then scalar (skipText later)
              else if lead = 0x2D then scalar (skipNumber later)
              else if isDigit lead then scalar (skipNumber (lead :: later))
              else if lead = 0x5B then skipFrom fuel .opened (true :: enclosing) later
              else if lead = 0x7B then skipFrom fuel .opened (false :: enclosing) later
              else .error .malformed
      | .opened, isArray :: outer =>
          match skipBlanks unread with
          | [] => .error .unfinished
          | lead :: later =>
              if lead = (if isArray then 0x5D else 0x7D) then skipFrom fuel .after outer later
              else skipFrom fuel .entry enclosing unread
      | .after, isArray :: outer =>
          match skipBlanks unread with
          | [] => .error .unfinished
          | lead :: later =>
              if lead = 0x2C then skipFrom fuel .entry enclosing later
              else if lead = (if isArray then 0x5D else 0x7D) then
                skipFrom fuel .after outer later
              else .error .malformed
      | .entry, false :: _ =>
          match skipBlanks unread with
          | [] => .error .unfinished
          | 0x22 :: later =>
              match skipText later with
              | .error fault => .error fault
              | .ok rest =>
                  match readColon rest with
                  | .error fault => .error fault
                  | .ok valueUnread => skipFrom fuel .value enclosing valueUnread
          | _ :: _ => .error .malformed
      | .entry, _ => skipFrom fuel .value enclosing unread

/-- Enough steps for skipping all values that some bytes hold: three for each byte, and three at
the end. -/
def skipFuel (unread : Unread) : Nat :=
  3 * unread.length + 3

def skipValue (fuel : Nat) (unread : Unread) : Except Fault Unread :=
  skipFrom fuel .value [] unread

end Json

end PayloadDepot
