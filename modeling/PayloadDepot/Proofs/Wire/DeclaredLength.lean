import PayloadDepot.Wire.DeclaredLength

/-!
# When a length is declared

Headers declare a length if the last header of its name holds eight bytes with a
value below 2^63.  Just then the length can be read, and any other headers break
the contract.
-/

namespace PayloadDepot

theorem Bytes.foldl_word_lt (bytes : List UInt8) (value : Nat) :
    bytes.foldl (fun value byte => value * 256 + byte.toNat) value <
      (value + 1) * Nat.pow 256 bytes.length := by
  induction bytes generalizing value with
  | nil => simp
  | cons byte later inductionHypothesis =>
      have digit : value * 256 + byte.toNat + 1 ≤ (value + 1) * 256 := by
        have := byte.toNat_lt
        omega
      calc (byte :: later).foldl (fun value byte => value * 256 + byte.toNat) value
          < (value * 256 + byte.toNat + 1) * Nat.pow 256 later.length := inductionHypothesis _
        _ ≤ (value + 1) * 256 * Nat.pow 256 later.length := Nat.mul_le_mul_right _ digit
        _ = (value + 1) * Nat.pow 256 (byte :: later).length := by
            rw [Nat.mul_assoc, Nat.mul_comm 256]
            rfl

theorem Bytes.wordValue_lt {bytes : ByteArray} (width : bytes.size = 8) :
    wordValue bytes.data.toList < 0x10000000000000000 := by
  have length : bytes.data.toList.length = 8 := width
  have bound := foldl_word_lt bytes.data.toList 0
  rw [length] at bound
  exact bound

namespace Headers

/-- The last header for the length holds it in eight bytes, and its first bit is not set. -/
structure Declares (headers : Headers) (length : Nat) : Prop where
  word : ∃ raw, headers.last? lengthKey = some raw ∧ raw.size = 8 ∧
    Bytes.wordValue raw.data.toList = length
  bound : length < 0x8000000000000000

theorem declaredLength_eq_ok_iff {headers : Headers} {length : Nat} :
    headers.declaredLength = .ok length ↔ headers.Declares length := by
  constructor
  · intro declared
    rw [declaredLength] at declared
    split at declared
    · cases declared
    · next raw last =>
        by_cases width : raw.size = 8
        · rw [Bytes.signedWord?, if_pos width] at declared
          dsimp only at declared
          split at declared
          · cases declared
          · next positive =>
              cases declared
              have small := Bytes.wordValue_lt width
              have bound : Bytes.wordValue raw.data.toList < 0x8000000000000000 := by
                rw [Bytes.signedOfWord] at positive
                split at positive
                · assumption
                · omega
              rw [Bytes.signedOfWord, if_pos bound]
              exact ⟨⟨raw, last, width, rfl⟩, bound⟩
        · rw [Bytes.signedWord?, if_neg width] at declared
          cases declared
  · rintro ⟨⟨raw, last, width, rfl⟩, bound⟩
    have word : Bytes.signedWord? raw = some (Bytes.wordValue raw.data.toList : Int) := by
      rw [Bytes.signedWord?, if_pos width, Bytes.signedOfWord, if_pos bound]
    rw [declaredLength, last]
    dsimp only
    rw [word]
    exact if_neg (Int.not_lt.mpr (Int.natCast_nonneg _))

/-- A length that cannot be read breaks the contract. -/
theorem exists_breach {headers : Headers} {fault : Fault}
    (declared : headers.declaredLength = .error fault) : ∃ breach, fault = .contract breach := by
  rw [declaredLength] at declared
  repeat' split at declared
  all_goals cases declared
  all_goals exact ⟨_, rfl⟩

end Headers

end PayloadDepot
