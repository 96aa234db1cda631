import PayloadDepot.Host.BlobName
import PayloadDepot.Proofs.Storage.MemoryRuns

/-!
# Names of payloads are proper

The names of a series repeat no earlier than after `16 ^ 12` numbers, so the
names that a run is given are proper for all runs that are not longer.
-/

namespace PayloadDepot

namespace BlobName

theorem hexDigit_injective {first second : Nat}
    (same : Bytes.hexDigit (first % 16) = Bytes.hexDigit (second % 16)) :
    first % 16 = second % 16 := by
  have firstLt : first % 16 < 16 := Nat.mod_lt _ (by decide)
  have secondLt : second % 16 < 16 := Nat.mod_lt _ (by decide)
  generalize first % 16 = left at *
  generalize second % 16 = right at *
  revert left right
  decide

/-- The last digits of two numbers are the same only if the numbers agree that far. -/
theorem mod_eq_of_lastDigits_eq {width first second : Nat}
    (same : lastDigits width first = lastDigits width second) :
    first % Nat.pow 16 width = second % Nat.pow 16 width := by
  induction width generalizing first second with
  | zero => exact (Nat.mod_one first).trans (Nat.mod_one second).symm
  | succ width inductionHypothesis =>
      rw [lastDigits, lastDigits] at same
      obtain ⟨leading, last⟩ := List.append_inj same (by simp)
      have digit := hexDigit_injective (List.cons.inj last).1
      have rest := inductionHypothesis leading
      change first % (Nat.pow 16 width * 16) = second % (Nat.pow 16 width * 16)
      rw [Nat.mul_comm, Nat.mod_mul, Nat.mod_mul, digit, rest]

theorem ofNumber_injective {series first second : Nat} (firstLt : first < 0x1000000000000)
    (secondLt : second < 0x1000000000000) (same : ofNumber series first = ofNumber series second) :
    first = second := by
  have characters := String.ofList_injective same
  have digits := List.append_cancel_left characters
  have agree := mod_eq_of_lastDigits_eq digits
  rwa [Nat.mod_eq_of_lt firstLt, Nat.mod_eq_of_lt secondLt] at agree

theorem isComponent_ofNumber (series number : Nat) :
    Text.IsComponent (ofNumber series number) := by
  refine ⟨fun empty => ?_, slash_not_mem_ofNumber series number⟩
  have length := length_ofNumber series number
  rw [empty] at length
  exact absurd length (by decide)

/-- Whether a text consists of the characters of names of payloads. -/
def IsIdentifier (name : String) : Prop :=
  name ≠ "" ∧ ∀ character ∈ name.toList, isDigit character = true ∨ character = '-'

instance (name : String) : Decidable (IsIdentifier name) :=
  inferInstanceAs (Decidable (_ ∧ _))

theorem IsIdentifier.isComponent {name : String} (identifier : IsIdentifier name) :
    Text.IsComponent name := by
  refine ⟨identifier.1, fun slashed => ?_⟩
  have plain := identifier.2 _ slashed
  revert plain
  decide

theorem isDigit_hexDigit (value : Nat) : isDigit (Bytes.hexDigit (value % 16)) = true := by
  have small : value % 16 < 16 := Nat.mod_lt _ (by decide)
  generalize value % 16 = digit at small
  revert digit
  decide

theorem isDigit_of_mem_lastDigits {width number : Nat} {character : Char}
    (mem : character ∈ lastDigits width number) : isDigit character = true := by
  induction width generalizing number with
  | zero => cases mem
  | succ width inductionHypothesis =>
      rw [lastDigits, List.mem_append, List.mem_singleton] at mem
      rcases mem with leading | rfl
      · exact inductionHypothesis leading
      · exact isDigit_hexDigit number

theorem isDigit_or_hyphen_of_mem_lead {series : Nat} {character : Char}
    (mem : character ∈ lead series) : isDigit character = true ∨ character = '-' := by
  simp only [lead, List.mem_append, List.mem_cons, List.not_mem_nil, or_false] at mem
  rcases mem with (((mem | rfl | mem) | rfl | rfl | mem) | rfl | rfl | mem) | rfl
  all_goals first | exact .inr rfl | exact .inl rfl | exact .inl (isDigit_of_mem_lastDigits mem)

theorem isIdentifier_ofNumber (series number : Nat) : IsIdentifier (ofNumber series number) := by
  refine ⟨(isComponent_ofNumber series number).1, fun character mem => ?_⟩
  rw [ofNumber, String.toList_ofList, List.mem_append] at mem
  rcases mem with leading | last
  · exact isDigit_or_hyphen_of_mem_lead leading
  · exact .inl (isDigit_of_mem_lastDigits last)

end BlobName

/-- The names of a series are proper as long as they do not begin to repeat. -/
theorem MemoryDepot.properNames_of_series {δ : Type} {world : World δ} {series : Nat}
    (named : world.nameSource = BlobName.ofNumber series)
    (bound : world.namesIssued ≤ 0x1000000000000) : ProperNames world where
  distinct firstLt secondLt same := by
    rw [named] at same
    exact BlobName.ofNumber_injective (Nat.lt_of_lt_of_le firstLt bound)
      (Nat.lt_of_lt_of_le secondLt bound) same
  component _ := by
    rw [named]
    exact BlobName.isComponent_ofNumber series _

end PayloadDepot
