import Mathlib.Data.String.Basic
import Mathlib.Tactic.SplitIfs

/-!
# The order of UTF-8

The bytes of a lesser character are less at the first place where they differ,
and none of two characters begins with all bytes of the other.  So texts are in
the order of their bytes exactly if they are in that of their code points.
-/

namespace PayloadDepot

namespace Text

namespace Utf8

section Characters

theorem ofNat_lt_iff {least most : Nat} (small : least < 256) (smallOther : most < 256) :
    UInt8.ofNat least < UInt8.ofNat most ↔ least < most := by
  rw [UInt8.lt_iff_toNat_lt, UInt8.toNat_ofNat', UInt8.toNat_ofNat', Nat.mod_eq_of_lt small,
    Nat.mod_eq_of_lt smallOther]

theorem ofNat_eq_iff {least most : Nat} (small : least < 256) (smallOther : most < 256) :
    UInt8.ofNat least = UInt8.ofNat most ↔ least = most := by
  rw [← UInt8.toNat_inj, UInt8.toNat_ofNat', UInt8.toNat_ofNat', Nat.mod_eq_of_lt small,
    Nat.mod_eq_of_lt smallOther]

/-- The bytes of a lesser character are less, whatever comes behind them. -/
theorem utf8EncodeChar_append_lt {left right : Char} (less : left < right)
    (rest restOther : List UInt8) :
    String.utf8EncodeChar left ++ rest < String.utf8EncodeChar right ++ restOther := by
  have less : left.val.toNat < right.val.toNat := less
  have greatest : right.val.toNat < 0x110000 := by
    rcases right.valid with small | ⟨-, large⟩
    · exact Nat.lt_trans small (by decide)
    · exact large
  simp only [String.utf8EncodeChar]
  generalize left.val.toNat = least at less
  generalize right.val.toNat = most at less greatest
  have digits (number : Nat) : number / 4096 = number / 64 / 64 ∧
      number / 262144 = number / 64 / 64 / 64 := by
    rw [Nat.div_div_eq_div_mul, Nat.div_div_eq_div_mul]
    exact ⟨rfl, rfl⟩
  simp only [digits]
  -- One case for each two widths: the first bytes of different widths lie apart, and those of
  -- equal widths hold the digits to the base 64, the highest first.
  split_ifs <;>
    simp (disch := omega) only [List.cons_append, List.nil_append, List.cons_lt_cons_iff,
      ofNat_lt_iff, ofNat_eq_iff] <;> omega

theorem utf8EncodeChar_ne_nil (character : Char) : String.utf8EncodeChar character ≠ [] := by
  rw [← List.length_pos_iff, String.length_utf8EncodeChar]
  exact character.utf8Size_pos

theorem flatMap_utf8EncodeChar_lt {left right : List Char} (less : left < right) :
    left.flatMap String.utf8EncodeChar < right.flatMap String.utf8EncodeChar := by
  induction left generalizing right with
  | nil =>
      obtain _ | ⟨first, later⟩ := right
      · exact absurd less (List.not_lt_nil _)
      · obtain ⟨lead, rest, bytes⟩ := List.exists_cons_of_ne_nil (utf8EncodeChar_ne_nil first)
        rw [List.flatMap_nil, List.flatMap_cons, bytes]
        exact List.nil_lt_cons _ _
  | cons first later inductionHypothesis =>
      obtain _ | ⟨firstOther, laterOther⟩ := right
      · exact absurd less (List.not_lt_nil _)
      · rw [List.flatMap_cons, List.flatMap_cons]
        rcases List.cons_lt_cons_iff.mp less with lesser | ⟨rfl, lesser⟩
        · exact utf8EncodeChar_append_lt lesser _ _
        · exact List.append_left_lt (inductionHypothesis lesser)

end Characters

theorem toUTF8_eq (text : String) :
    text.toUTF8.data.toList = text.toList.flatMap String.utf8EncodeChar := by
  rw [String.toUTF8, ← String.utf8Encode_toList, List.utf8Encode, List.toList_data_toByteArray]

/-- Texts are in the order of their bytes exactly if they are in that of their code points. -/
theorem toUTF8_lt_iff {left right : String} :
    left.toUTF8.data.toList < right.toUTF8.data.toList ↔ left < right := by
  have lt_of_lt {left right : String} (less : left < right) :
      left.toUTF8.data.toList < right.toUTF8.data.toList := by
    rw [toUTF8_eq, toUTF8_eq]
    exact flatMap_utf8EncodeChar_lt less
  refine ⟨fun less => ?_, lt_of_lt⟩
  rcases lt_trichotomy left right with lesser | rfl | greater
  · exact lesser
  · exact absurd less (List.lt_irrefl _)
  · exact absurd less (List.lt_asymm (lt_of_lt greater))

end Utf8

end Text

end PayloadDepot
