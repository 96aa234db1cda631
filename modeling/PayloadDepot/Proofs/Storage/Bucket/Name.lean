import PayloadDepot.Proofs.Claim
import PayloadDepot.Proofs.Host.BlobName
import PayloadDepot.Storage.Bucket.Name

/-!
# Names of buckets are components

Whatever a topic is called, the name of its bucket consists of lower case
letters, digits and hyphens and is not empty.  So a reference into the bucket
can be taken apart again.
-/

namespace PayloadDepot

namespace BucketName

/-- Whether characters may all stand in a folded name. -/
def IsLabel (characters : List Char) : Prop :=
  ∀ character ∈ characters, isAlphanumeric character = true ∨ character = '-'

variable {characters others : List Char}

theorem IsLabel.subset (label : IsLabel characters) (subset : others ⊆ characters) :
    IsLabel others :=
  fun character mem => label character (subset mem)

theorem IsLabel.cons {character : Char}
    (plain : isAlphanumeric character = true ∨ character = '-') (label : IsLabel characters) :
    IsLabel (character :: characters) :=
  List.forall_mem_cons.mpr ⟨plain, label⟩

theorem IsLabel.append (label : IsLabel characters) (otherLabel : IsLabel others) :
    IsLabel (characters ++ others) :=
  List.forall_mem_append.mpr ⟨label, otherLabel⟩

theorem isLabel_collapse (afterHyphen : Bool) (characters : List Char) :
    IsLabel (collapse afterHyphen characters) := by
  induction characters generalizing afterHyphen with
  | nil => exact fun _ mem => nomatch mem
  | cons character later inductionHypothesis =>
      rw [collapse]
      split
      · next plain => exact (inductionHypothesis false).cons (.inl plain)
      · split
        · exact inductionHypothesis true
        · exact (inductionHypothesis true).cons (.inr rfl)

theorem trimEnd_subset (characters : List Char) : trimEnd characters ⊆ characters := by
  intro character mem
  rw [trimEnd, List.mem_reverse] at mem
  exact List.mem_reverse.mp ((List.dropWhile_suffix _).subset mem)

theorem isLabel_fold (raw : String) : IsLabel (fold raw) :=
  (isLabel_collapse false _).subset fun _ mem =>
    (List.dropWhile_suffix _).subset (trimEnd_subset _ mem)

theorem isAlphanumeric_of_isDigit {character : Char}
    (digit : BlobName.isDigit character = true) : isAlphanumeric character = true := by
  simp only [BlobName.isDigit, isAlphanumeric, Bool.or_eq_true, Bool.and_eq_true,
    decide_eq_true_eq] at digit ⊢
  rcases digit with decimal | ⟨least, greatest⟩
  · exact .inr decimal
  · exact .inl ⟨least, Char.le_trans greatest (by decide : 'f' ≤ 'z')⟩

theorem isAlphanumeric_of_mem_hex {bytes : List UInt8} {character : Char}
    (mem : character ∈ Bytes.hex bytes) : isAlphanumeric character = true := by
  rw [Bytes.hex, List.mem_flatMap] at mem
  obtain ⟨byte, -, digit⟩ := mem
  have small : byte.toNat / 16 = byte.toNat / 16 % 16 := by
    have bound := byte.toNat_lt
    omega
  rw [Bytes.hexOfByte, small, List.mem_pair] at digit
  rcases digit with rfl | rfl <;> exact isAlphanumeric_of_isDigit (BlobName.isDigit_hexDigit _)

theorem isAlphanumeric_of_mem_suffix {raw : String} {character : Char}
    (mem : character ∈ suffix raw) : isAlphanumeric character = true :=
  isAlphanumeric_of_mem_hex (List.mem_of_mem_take mem)

theorem isLabel_suffix (raw : String) : IsLabel (suffix raw) :=
  fun _ mem => .inl (isAlphanumeric_of_mem_suffix mem)

theorem suffix_ne_nil (raw : String) : suffix raw ≠ [] := by
  intro empty
  have length := congrArg List.length empty
  simp [suffix, suffixLength] at length

theorem isLabel_ofTopic (lead topic : String) :
    IsLabel (ofTopic lead topic).toList ∧ (ofTopic lead topic).toList ≠ [] := by
  rw [ofTopic]
  dsimp only
  split
  · next kept =>
    obtain ⟨same, least, -⟩ := kept
    rw [← same]
    refine ⟨isLabel_fold _, fun empty => ?_⟩
    rw [empty] at least
    exact absurd least (by decide)
  · split
    · rw [String.toList_ofList]
      exact ⟨isLabel_suffix _, suffix_ne_nil _⟩
    · rw [String.toList_ofList]
      refine ⟨.append ?_ (.cons (.inr rfl) (isLabel_suffix _)), by simp⟩
      exact (isLabel_fold _).subset fun _ mem =>
        List.take_subset _ _ (trimEnd_subset _ mem)

theorem IsLabel.slash_not_mem (label : IsLabel characters) : '/' ∉ characters := by
  intro mem
  have plain := label _ mem
  revert plain
  decide

/-- The name of a bucket can stand in a reference. -/
theorem isComponent_ofTopic (lead topic : String) : Text.IsComponent (ofTopic lead topic) := by
  obtain ⟨label, filled⟩ := isLabel_ofTopic lead topic
  refine ⟨fun empty => filled ?_, label.slash_not_mem⟩
  rw [empty]
  rfl

end BucketName

end PayloadDepot
