import Mathlib.Data.Nat.Digits.Defs
import PayloadDepot.Proofs.Wire.DeclaredLength

/-!
# Two's complement

Eight bytes hold an integer in two's complement if, as digits to the base 256
with the most significant first, they are those of its residue modulo 2^64.
Every eight bytes hold just one integer and every integer that fits is held by
just one row of bytes, so reading a word and writing it are inverse to each
other.
-/

namespace PayloadDepot

namespace Bytes

/-- Eight bytes hold an integer in two's complement, the most significant byte first. -/
structure Holds (raw : ByteArray) (value : Int) : Prop where
  width : raw.size = 8
  least : -2 ^ 63 ≤ value
  bound : value < 2 ^ 63
  digits : (Nat.ofDigits 256 (raw.data.toList.map UInt8.toNat).reverse : Nat) = value % 2 ^ 64

theorem wordValue_eq_ofDigits (bytes : List UInt8) :
    wordValue bytes = Nat.ofDigits 256 (bytes.map UInt8.toNat).reverse := by
  rw [Nat.ofDigits_eq_foldr, List.foldr_reverse, List.foldl_map, wordValue]
  congr 1
  funext value byte
  rw [Nat.cast_id, Nat.mul_comm, Nat.add_comm]

/-- A word is read as the integer that its bytes hold. -/
theorem signedWord?_eq_some_iff {raw : ByteArray} {value : Int} :
    signedWord? raw = some value ↔ Holds raw value := by
  rw [signedWord?, wordValue_eq_ofDigits]
  constructor
  · intro read
    split at read
    · next width =>
      have small := wordValue_lt width
      rw [wordValue_eq_ofDigits] at small
      rw [Option.some.injEq, signedOfWord] at read
      generalize word : Nat.ofDigits 256 (raw.data.toList.map UInt8.toNat).reverse = digits at *
      split at read <;> exact ⟨width, by omega, by omega, by omega⟩
    · cases read
  · rintro ⟨width, least, bound, digits⟩
    rw [if_pos width, signedOfWord, Option.some.injEq]
    split <;> omega

/-- The bytes of a number below 2^63 hold it. -/
theorem holds_wordBytes {length : Nat} (small : length < 2 ^ 63) :
    Holds (wordBytes length) length := by
  refine ⟨rfl, by omega, by omega, ?_⟩
  rw [← wordValue_eq_ofDigits, wordValue_wordBytes (by omega)]
  omega

/-- No two rows of bytes hold the same integer. -/
theorem Holds.unique {raw other : ByteArray} {value : Int} (holds : Holds raw value)
    (otherHolds : Holds other value) : raw = other := by
  have digit {bytes : List UInt8} : ∀ digit ∈ (bytes.map UInt8.toNat).reverse, digit < 256 := by
    intro digit member
    obtain ⟨byte, -, rfl⟩ := List.mem_map.mp (List.mem_reverse.mp member)
    exact byte.toNat_lt
  have rawLength : raw.data.toList.length = 8 := holds.width
  have otherLength : other.data.toList.length = 8 := otherHolds.width
  have same := Nat.ofDigits_inj_of_len_eq (by decide) (by simp [rawLength, otherLength]) digit digit
    (Int.ofNat.inj (holds.digits.trans otherHolds.digits.symm))
  rw [ByteArray.ext_iff, ← Array.toList_inj]
  exact (List.map_inj_right fun _ _ => UInt8.toNat_inj.mp).mp (List.reverse_inj.mp same)

end Bytes

end PayloadDepot
