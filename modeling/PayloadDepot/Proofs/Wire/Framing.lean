import PayloadDepot.Proofs.Wire.Varint

/-!
# Records as bytes

The bytes of a record that is sent as the only one of an uncompressed batch: its
length, its attributes, its distance in time and in place from the start of the
batch, its key, its value and its headers.  Whatever may be absent is told by a
length of -1.  The estimated size of a record is the exact number of these bytes
behind the header of the batch.
-/

namespace PayloadDepot

namespace Framing

/-- Bytes with their number in front of them. -/
def counted (content : List UInt8) : List UInt8 :=
  Varint.bytes content.length ++ content

/-- Bytes that may be absent. -/
def nullableBytes : Option ByteArray → List UInt8
  | none => Varint.bytes (-1)
  | some content => counted content.data.toList

def headerBytes (header : Header) : List UInt8 :=
  counted header.key.toUTF8.data.toList ++ counted header.value.data.toList

/-- A record without its own length.  No attribute is set, and the first record of a batch has no
distance from its start. -/
def bodyBytes (key value : Option ByteArray) (headers : Headers) : List UInt8 :=
  [0x00] ++ Varint.bytes 0 ++ Varint.bytes 0 ++ nullableBytes key ++ nullableBytes value ++
    Varint.bytes headers.size ++ headers.entries.flatMap headerBytes

def recordBytes (key value : Option ByteArray) (headers : Headers) : List UInt8 :=
  counted (bodyBytes key value headers)

@[simp]
theorem length_counted (content : List UInt8) :
    (counted content).length = nullableSize (some content.length) := by
  simp [counted, nullableSize]

@[simp]
theorem length_nullableBytes (content : Option ByteArray) :
    (nullableBytes content).length = nullableSize (content.map ByteArray.size) := by
  cases content with
  | none =>
      have place : Varint.zigzag (-1) = 1 := rfl
      simp [nullableBytes, nullableSize, Varint.bytes, place, Varint.groups]
  | some bytes => simp [nullableBytes]

@[simp]
theorem length_headerBytes (header : Header) : (headerBytes header).length = headerSize header := by
  simp [headerBytes, headerSize]

theorem length_flatMap_headerBytes (entries : List Header) :
    (entries.flatMap headerBytes).length = (entries.map headerSize).foldr (· + ·) 0 := by
  induction entries with
  | nil => rfl
  | cons header later inductionHypothesis => simp [inductionHypothesis]

theorem length_bodyBytes (key value : Option ByteArray) (headers : Headers) :
    (bodyBytes key value headers).length =
      bodySize (key.map ByteArray.size) (value.map ByteArray.size) headers := by
  have zero : (Varint.bytes 0).length = varintSize 0 := Varint.length_bytes 0
  simp only [bodyBytes, bodySize, List.length_append, List.length_singleton, zero,
    length_nullableBytes, Varint.length_bytes, length_flatMap_headerBytes]

theorem length_recordBytes (key value : Option ByteArray) (headers : Headers) :
    (recordBytes key value headers).length =
      recordSize (key.map ByteArray.size) (value.map ByteArray.size) headers := by
  rw [recordBytes, length_counted, length_bodyBytes]
  rfl

/-- The estimated size of a record is that of its bytes behind the 61 of a batch's header.  Every
length in them takes just the bytes that are counted for it, from which it can be read again. -/
theorem estimate_eq_length_recordBytes :
    (∀ (key value : Option ByteArray) (headers : Headers) (timestamp : Int),
      estimate key (value.map ByteArray.size) headers timestamp =
        61 + (recordBytes key value headers).length) ∧
      (∀ number : Nat, varintSize number = (Varint.bytes number).length) ∧
        ∀ (value : Int) (rest : List UInt8),
          Varint.read? (Varint.bytes value ++ rest) = some (value, rest) := by
  refine ⟨fun key value headers timestamp => ?_, fun number => ?_, Varint.read?_bytes⟩
  · rw [length_recordBytes]
    rfl
  · rw [Varint.length_bytes]

end Framing

end PayloadDepot
