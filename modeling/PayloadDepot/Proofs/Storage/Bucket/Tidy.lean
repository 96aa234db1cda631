import Mathlib.Data.List.Chain
import Mathlib.Data.List.DropRight
import PayloadDepot.Proofs.Storage.Bucket.Name

/-!
# Tidy names

A name is tidy if it consists of lower case letters, digits and hyphens, has no
hyphen next to another one and neither begins nor ends with one.  Folding makes
every name tidy and leaves a tidy one as it is.  The name of a bucket is always
tidy and neither too short nor too long, so it is one of those that are used as
they are.
-/

namespace PayloadDepot

namespace BucketName

/-- Words of lower case letters and digits with single hyphens between them. -/
structure Tidy (characters : List Char) : Prop where
  label : IsLabel characters
  single : characters.IsChain fun first second => first = '-' → second ≠ '-'
  first : characters.head? ≠ some '-'
  last : characters.getLast? ≠ some '-'

section Lowercase

variable {character : Char}

theorem ascii_of_plain (plain : isAlphanumeric character = true ∨ character = '-') :
    character.toNat < 0x80 ∧ character.toLower = character := by
  have bounds : 45 ≤ character.toNat ∧ character.toNat ≤ 57 ∨
      97 ≤ character.toNat ∧ character.toNat ≤ 122 := by
    rcases plain with alphanumeric | rfl
    · simp only [isAlphanumeric, Bool.or_eq_true, Bool.and_eq_true, decide_eq_true_eq]
        at alphanumeric
      rcases alphanumeric with ⟨least, greatest⟩ | ⟨least, greatest⟩
      · exact .inr ⟨least, greatest⟩
      · exact .inl ⟨Nat.le_trans (by decide) least, greatest⟩
    · exact .inl (by decide)
  refine ⟨by omega, dif_neg fun upper => ?_⟩
  have least : 65 ≤ character.toNat := upper.1
  have greatest : character.toNat ≤ 90 := upper.2
  omega

theorem lowercaseAfter_of_isLabel {characters : List Char} (label : IsLabel characters)
    (before : List Char) : Text.lowercaseAfter before characters = characters := by
  induction characters generalizing before with
  | nil => rfl
  | cons character later inductionHypothesis =>
      obtain ⟨plain, label⟩ := List.forall_mem_cons.mp label
      obtain ⟨ascii, lower⟩ := ascii_of_plain plain
      have other : character ≠ 'Σ' := by
        rintro rfl
        exact absurd ascii (by decide)
      rw [Text.lowercaseAfter, if_neg other, Text.lowercaseCharacter_of_ascii ascii, lower,
        inductionHypothesis label]
      rfl

theorem lowercase_of_isLabel {raw : String} (label : IsLabel raw.toList) :
    Text.lowercase raw = raw := by
  rw [Text.lowercase, lowercaseAfter_of_isLabel label, String.ofList_toList]

end Lowercase

section Collapse

/-- Collapsing leaves no hyphen next to another one, and none at the beginning if one stands before
it. -/
theorem single_collapse (afterHyphen : Bool) (characters : List Char) :
    (collapse afterHyphen characters).IsChain (fun first second => first = '-' → second ≠ '-') ∧
      (afterHyphen = true → (collapse afterHyphen characters).head? ≠ some '-') := by
  induction characters generalizing afterHyphen with
  | nil => exact ⟨.nil, fun _ => nofun⟩
  | cons character later inductionHypothesis =>
      rw [collapse]
      split
      · next plain =>
        have other : character ≠ '-' := by
          rintro rfl
          exact absurd plain (by decide)
        refine ⟨List.isChain_cons.mpr ⟨fun _ _ same => absurd same other, ?_⟩, fun _ => ?_⟩
        · exact (inductionHypothesis false).1
        · simpa using other
      · split
        · next hyphen =>
          exact ⟨(inductionHypothesis true).1, fun _ => (inductionHypothesis true).2 rfl⟩
        · next first =>
          refine ⟨List.isChain_cons.mpr ⟨?_, (inductionHypothesis true).1⟩, first.elim⟩
          rintro next mem - rfl
          exact (inductionHypothesis true).2 rfl mem

theorem collapse_of_single {characters : List Char} (label : IsLabel characters)
    (single : characters.IsChain fun first second => first = '-' → second ≠ '-')
    {afterHyphen : Bool} (apart : afterHyphen = true → characters.head? ≠ some '-') :
    collapse afterHyphen characters = characters := by
  induction characters generalizing afterHyphen with
  | nil => rfl
  | cons character later inductionHypothesis =>
      obtain ⟨plain, labelLater⟩ := List.forall_mem_cons.mp label
      obtain ⟨following, singleLater⟩ := List.isChain_cons.mp single
      rw [collapse]
      split
      · next alphanumeric =>
        rw [inductionHypothesis labelLater singleLater fun first => absurd first Bool.false_ne_true]
      · next other =>
        obtain rfl : character = '-' := plain.resolve_left other
        rw [if_neg fun hyphen => apart hyphen rfl]
        rw [inductionHypothesis labelLater singleLater fun _ found => following '-' found rfl rfl]

end Collapse

section Trim

variable {characters : List Char}

theorem getLast?_trimEnd_ne (characters : List Char) :
    (trimEnd characters).getLast? ≠ some '-' := by
  intro hyphen
  have filled : trimEnd characters ≠ [] := by
    intro empty
    rw [empty] at hyphen
    cases hyphen
  rw [List.getLast?_eq_some_getLast filled, Option.some.injEq] at hyphen
  exact List.rdropWhile_last_not _ characters filled (decide_eq_true hyphen)

theorem trimEnd_of_last (last : characters.getLast? ≠ some '-') :
    trimEnd characters = characters := by
  refine List.rdropWhile_eq_self_iff.mpr fun filled hyphen => last ?_
  rw [List.getLast?_eq_some_getLast filled, of_decide_eq_true hyphen]

theorem head?_dropWhile_ne (characters : List Char) :
    (characters.dropWhile (· = '-')).head? ≠ some '-' := by
  intro hyphen
  have other := List.head?_dropWhile_not (fun character => decide (character = '-')) characters
  rw [hyphen] at other
  exact absurd other (by decide)

/-- Trimming takes something only off the end. -/
theorem trimEnd_isPrefix (characters : List Char) : trimEnd characters <+: characters :=
  List.rdropWhile_prefix _ characters

theorem head?_ne_of_isPrefix {others : List Char} (first : characters.head? ≠ some '-')
    (before : others <+: characters) : others.head? ≠ some '-' := by
  obtain ⟨rest, rfl⟩ := before
  cases others with
  | nil => nofun
  | cons character later => exact first

/-- What is left of a tidy name when its end is trimmed off or cut off is tidy. -/
theorem Tidy.trimEnd_take (tidy : Tidy characters) (length : Nat) :
    Tidy (trimEnd (characters.take length)) := by
  have cut : characters.take length <+: characters := List.take_prefix length characters
  have before := (trimEnd_isPrefix (characters.take length)).trans cut
  exact {
    label := tidy.label.subset before.subset
    single := List.IsChain.prefix tidy.single before
    first := head?_ne_of_isPrefix tidy.first before
    last := getLast?_trimEnd_ne _ }

end Trim

/-- A folded name is tidy. -/
theorem tidy_fold (raw : String) : Tidy (fold raw) where
  label := isLabel_fold raw
  single := by
    have single := (single_collapse false (Text.lowercase raw).toList).1
    exact List.IsChain.prefix (single.suffix (List.dropWhile_suffix _)) (trimEnd_isPrefix _)
  first := head?_ne_of_isPrefix (head?_dropWhile_ne _) (trimEnd_isPrefix _)
  last := getLast?_trimEnd_ne _

/-- A name is folded into itself exactly if it is tidy. -/
theorem fold_eq_toList_iff {raw : String} : fold raw = raw.toList ↔ Tidy raw.toList := by
  constructor
  · intro same
    rw [← same]
    exact tidy_fold raw
  · intro tidy
    have collapsed : collapse false raw.toList = raw.toList :=
      collapse_of_single tidy.label tidy.single fun first => absurd first Bool.false_ne_true
    have kept : raw.toList.dropWhile (· = '-') = raw.toList := by
      refine List.dropWhile_eq_self_iff.mpr fun filled hyphen => tidy.first ?_
      rw [List.head?_eq_getElem?, List.getElem?_eq_getElem filled, of_decide_eq_true hyphen]
    rw [fold, lowercase_of_isLabel tidy.label, collapsed, trimHyphens, kept,
      trimEnd_of_last tidy.last]

/-- Two tidy names with a hyphen between them make a tidy one if none of them is empty. -/
theorem Tidy.append_hyphen {base ending : List Char} (tidy : Tidy base) (filled : base ≠ [])
    (tidyEnding : Tidy ending) (filledEnding : ending ≠ []) : Tidy (base ++ '-' :: ending) where
  label := tidy.label.append (.cons (.inr rfl) tidyEnding.label)
  single := by
    refine List.isChain_append.mpr ⟨tidy.single, ?_, ?_⟩
    · refine List.isChain_cons.mpr ⟨?_, tidyEnding.single⟩
      rintro character mem - rfl
      exact tidyEnding.first mem
    · rintro character mem - - rfl
      exact absurd mem tidy.last
  first := by
    rw [List.head?_append_of_ne_nil _ filled]
    exact tidy.first
  last := by
    have ends : ('-' :: ending).getLast? = ending.getLast? := by
      rw [List.getLast?_cons_of_ne_nil filledEnding]
    rw [List.getLast?_append_of_ne_nil _ (List.cons_ne_nil _ _), ends]
    exact tidyEnding.last

/-- A name without any hyphen is tidy. -/
theorem tidy_of_alphanumeric {characters : List Char}
    (plain : ∀ character ∈ characters, isAlphanumeric character = true) : Tidy characters := by
  have other : '-' ∉ characters := fun mem => absurd (plain _ mem) (by decide)
  exact {
    label := fun character mem => .inl (plain character mem)
    single := by
      refine List.Pairwise.isChain (List.pairwise_of_forall_mem_list ?_)
      rintro character mem - - rfl
      exact absurd mem other
    first := fun hyphen => other (List.mem_of_head? hyphen)
    last := fun hyphen => other (List.mem_of_getLast? hyphen) }

section Names

/-- A name that is used for a bucket as it is. -/
def IsPlain (raw : String) : Prop :=
  fold raw = raw.toList ∧ leastLength ≤ (fold raw).length ∧ (fold raw).length ≤ greatestLength

instance (raw : String) : Decidable (IsPlain raw) :=
  inferInstanceAs (Decidable (_ ∧ _))

/-- The name of a bucket that is folded from a name and tells it apart by its hash. -/
def hashed (raw : String) : String :=
  let base := trimEnd ((fold raw).take (greatestLength - suffixLength - 1))
  if base.isEmpty then String.ofList (suffix raw)
  else String.ofList (base ++ '-' :: suffix raw)

theorem ofTopic_eq (lead topic : String) :
    ofTopic lead topic =
      if IsPlain (lead ++ topic) then lead ++ topic else hashed (lead ++ topic) :=
  rfl

theorem ofTopic_of_isPlain {lead topic : String} (plain : IsPlain (lead ++ topic)) :
    ofTopic lead topic = lead ++ topic := by
  rw [ofTopic_eq, if_pos plain]

theorem ofTopic_of_not_isPlain {lead topic : String} (folded : ¬ IsPlain (lead ++ topic)) :
    ofTopic lead topic = hashed (lead ++ topic) := by
  rw [ofTopic_eq, if_neg folded]

theorem isPlain_iff {raw : String} : IsPlain raw ↔ Tidy raw.toList ∧
    leastLength ≤ raw.toList.length ∧ raw.toList.length ≤ greatestLength := by
  rw [IsPlain, ← fold_eq_toList_iff]
  constructor
  · rintro ⟨same, bounds⟩
    exact ⟨same, same ▸ bounds⟩
  · rintro ⟨same, bounds⟩
    exact ⟨same, same.symm ▸ bounds⟩

@[simp]
theorem length_suffix (raw : String) : (suffix raw).length = suffixLength := by
  simp [suffix, suffixLength]

theorem tidy_suffix (raw : String) : Tidy (suffix raw) :=
  tidy_of_alphanumeric fun _ mem => isAlphanumeric_of_mem_suffix mem

/-- The name of a bucket that was folded ends in the hash. -/
theorem exists_hashed (raw : String) : ∃ base, (hashed raw).toList = base ++ suffix raw := by
  rw [hashed]
  split
  · exact ⟨[], String.toList_ofList⟩
  · refine ⟨trimEnd ((fold raw).take (greatestLength - suffixLength - 1)) ++ ['-'], ?_⟩
    rw [String.toList_ofList, List.append_assoc, List.singleton_append]

/-- A name that was folded once is used as it is from then on. -/
theorem isPlain_hashed (raw : String) : IsPlain (hashed raw) := by
  have filled := suffix_ne_nil raw
  rw [isPlain_iff, hashed]
  split
  · rw [String.toList_ofList]
    refine ⟨tidy_suffix raw, ?_⟩
    rw [length_suffix]
    decide
  · next cut =>
    have tidy := (tidy_fold raw).trimEnd_take (greatestLength - suffixLength - 1)
    have short := (trimEnd_isPrefix _).length_le.trans
      (List.length_take_le (greatestLength - suffixLength - 1) (fold raw))
    rw [String.toList_ofList]
    refine ⟨tidy.append_hyphen (by simpa using cut) (tidy_suffix raw) filled, ?_⟩
    rw [List.length_append, List.length_cons, length_suffix]
    simp only [leastLength, greatestLength, suffixLength] at short ⊢
    omega

theorem isPlain_ofTopic (lead topic : String) : IsPlain (ofTopic lead topic) := by
  rw [ofTopic_eq]
  split
  · assumption
  · exact isPlain_hashed _

end Names

end BucketName

end PayloadDepot
