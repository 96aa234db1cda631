/-!
# SHA-1

The secure hash of FIPS 180: a message is padded to blocks of sixteen words,
each block is expanded to eighty words, and eighty rounds mix them into a state
of five words.
-/

namespace PayloadDepot

namespace Bytes

namespace Sha1

/-- The five words that the rounds transform. -/
structure State where
  a : UInt32
  b : UInt32
  c : UInt32
  d : UInt32
  e : UInt32

def State.initial : State :=
  ⟨0x67452301, 0xEFCDAB89, 0x98BADCFE, 0x10325476, 0xC3D2E1F0⟩

def State.add (left right : State) : State :=
  ⟨left.a + right.a, left.b + right.b, left.c + right.c, left.d + right.d, left.e + right.e⟩

/-- A word turned to the left by less than its width. -/
def rotate (word amount : UInt32) : UInt32 :=
  (word <<< amount) ||| (word >>> (32 - amount))

def wordOf (bytes : List UInt8) : UInt32 :=
  bytes.foldl (fun word byte => (word <<< 8) ||| byte.toUInt32) 0

def bytesOf (word : UInt32) : List UInt8 :=
  [(word >>> 24).toUInt8, (word >>> 16).toUInt8, (word >>> 8).toUInt8, word.toUInt8]

/-- A list cut into consecutive pieces of one positive size; the last may be shorter. -/
def pieces (size : Nat) (bytes : List UInt8) : List (List UInt8) :=
  if _short : size = 0 ∨ bytes = [] then []
  else bytes.take size :: pieces size (bytes.drop size)
termination_by bytes.length
decreasing_by
  have : bytes.length ≠ 0 := by simp_all
  simp only [List.length_drop]
  omega

/-- A message, a one bit, zeros up to a multiple of 64 bytes, and the message's length in bits. -/
def padded (message : List UInt8) : List UInt8 :=
  let zeros := (119 - message.length % 64) % 64
  let bits := message.length * 8
  message ++ [0x80] ++ List.replicate zeros 0 ++
    (List.range 8).reverse.map (fun place => UInt8.ofNat (bits / Nat.pow 256 place))

/-- The sixteen words of a block followed by the next ones, up to the given number of them. -/
def expand : Nat → Array UInt32 → Array UInt32
  | 0, words => words
  | more + 1, words =>
      let back (distance : Nat) := words.getD (words.size - distance) 0
      expand more (words.push (rotate (back 3 ^^^ back 8 ^^^ back 14 ^^^ back 16) 1))

/-- The mixing function and the constant of a round. -/
def mix (round : Nat) (state : State) : UInt32 × UInt32 :=
  if round < 20 then
    ((state.b &&& state.c) ||| ((~~~state.b) &&& state.d), 0x5A827999)
  else if round < 40 then
    (state.b ^^^ state.c ^^^ state.d, 0x6ED9EBA1)
  else if round < 60 then
    ((state.b &&& state.c) ||| (state.b &&& state.d) ||| (state.c &&& state.d), 0x8F1BBCDC)
  else
    (state.b ^^^ state.c ^^^ state.d, 0xCA62C1D6)

def State.round (state : State) (number : Nat) (word : UInt32) : State :=
  let (mixed, constant) := mix number state
  ⟨rotate state.a 5 + mixed + state.e + constant + word, state.a, rotate state.b 30, state.c,
    state.d⟩

def State.absorb (state : State) (block : List UInt8) : State :=
  let words := expand 64 ((pieces 4 block).map wordOf).toArray
  state.add ((List.range 80).foldl
    (fun current number => current.round number (words.getD number 0)) state)

/-- The twenty bytes of a message's hash. -/
def digest (message : List UInt8) : List UInt8 :=
  let state := (pieces 64 (padded message)).foldl State.absorb State.initial
  [state.a, state.b, state.c, state.d, state.e].flatMap bytesOf

@[simp]
theorem length_digest (message : List UInt8) : (digest message).length = 20 := rfl

end Sha1

end Bytes

end PayloadDepot
