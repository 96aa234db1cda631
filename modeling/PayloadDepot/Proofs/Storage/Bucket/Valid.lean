import PayloadDepot.Proofs.Storage.Bucket.Tidy

/-!
# Valid names

A name is valid if it has 3 to 63 characters, all of them lower case letters,
digits and hyphens, with a letter or a digit at both ends.  The name of every
bucket is valid and has no hyphen next to another one, and those are just the
names that are used as they are: a valid name with two hyphens in a row is folded
as if it were not.

A folded name has a byte for each of its characters.  So its length and the place
where it is cut may as well be told in bytes, and no cut goes through a
character.
-/

namespace PayloadDepot

namespace BucketName

/-- The names that are documented to be used as they are. -/
structure Valid (name : String) : Prop where
  least : 3 ≤ name.length
  greatest : name.length ≤ 63
  label : IsLabel name.toList
  first : name.toList.head?.any isAlphanumeric = true
  last : name.toList.getLast?.any isAlphanumeric = true

section Plain

variable {characters : List Char} {raw : String}

theorem any_isAlphanumeric_iff {place : Option Char} {character : Char}
    (found : place = some character)
    (plain : isAlphanumeric character = true ∨ character = '-') :
    place.any isAlphanumeric = true ↔ place ≠ some '-' := by
  subst found
  constructor
  · rintro alphanumeric ⟨⟩
    exact absurd alphanumeric (by decide)
  · intro other
    exact plain.resolve_right fun hyphen => other (congrArg some hyphen)

/-- No hyphen stands next to another one if there are no two in a row anywhere. -/
theorem single_iff :
    (characters.IsChain fun first second => first = '-' → second ≠ '-') ↔
      ¬ ['-', '-'] <:+: characters := by
  rw [List.isChain_iff_forall_rel_of_append_cons_cons]
  constructor
  · rintro single ⟨before, after, rfl⟩
    have divided : before ++ ['-', '-'] ++ after = before ++ '-' :: '-' :: after := by simp
    exact single divided rfl rfl
  · rintro apart _ _ before after rfl rfl rfl
    exact apart ⟨before, after, by simp⟩

/-- The names that are used as they are. -/
theorem isPlain_iff_valid : IsPlain raw ↔ Valid raw ∧ ¬ ['-', '-'] <:+: raw.toList := by
  rw [isPlain_iff, ← single_iff, String.length_toList]
  have ends (label : IsLabel raw.toList) (filled : raw.toList ≠ []) :
      (raw.toList.head?.any isAlphanumeric = true ↔ raw.toList.head? ≠ some '-') ∧
        (raw.toList.getLast?.any isAlphanumeric = true ↔ raw.toList.getLast? ≠ some '-') :=
    ⟨any_isAlphanumeric_iff (List.head?_eq_some_head filled) (label _ (List.head_mem filled)),
      any_isAlphanumeric_iff (List.getLast?_eq_some_getLast filled)
        (label _ (List.getLast_mem filled))⟩
  have filled_of_least (least : 3 ≤ raw.length) : raw.toList ≠ [] := by
    intro empty
    rw [← String.length_toList, empty] at least
    exact absurd least (by decide)
  constructor
  · rintro ⟨tidy, least, greatest⟩
    obtain ⟨first, last⟩ := ends tidy.label (filled_of_least least)
    exact ⟨⟨least, greatest, tidy.label, first.mpr tidy.first, last.mpr tidy.last⟩, tidy.single⟩
  · rintro ⟨valid, single⟩
    obtain ⟨first, last⟩ := ends valid.label (filled_of_least valid.least)
    exact ⟨⟨valid.label, single, first.mp valid.first, last.mp valid.last⟩, valid.least,
      valid.greatest⟩

/-- A topic gets a bucket of its own name exactly if that name is one of those. -/
theorem ofTopic_eq_append_iff_isPlain {lead topic : String} :
    ofTopic lead topic = lead ++ topic ↔ IsPlain (lead ++ topic) := by
  constructor
  · intro same
    rw [← same]
    exact isPlain_ofTopic lead topic
  · exact ofTopic_of_isPlain

end Plain

section Bytes

/-- The front of a text up to a number of bytes; nothing if the text is shorter or a character lies
across that place. -/
def cut? (text : String) (size : Nat) : Option String :=
  if valid : String.Pos.Raw.IsValid text ⟨size⟩ then some (text.sliceTo ⟨⟨size⟩, valid⟩).copy
  else none

/-- The name of a bucket, with all lengths and places in bytes; nothing if a cut is refused. -/
def ofTopicInBytes? (lead topic : String) : Option String :=
  let raw := lead ++ topic
  let folded := String.ofList (fold raw)
  if folded = raw ∧ leastLength ≤ folded.utf8ByteSize ∧ folded.utf8ByteSize ≤ greatestLength then
    some raw
  else do
    let digest := Bytes.hex (Bytes.Sha1.digest (nameSpace ++ raw.toUTF8.toList))
    let ending ← cut? (String.ofList digest) suffixLength
    let front ← cut? folded (min folded.utf8ByteSize (greatestLength - suffixLength - 1))
    let base := trimEnd front.toList
    if base.isEmpty then some ending else some (String.ofList base ++ "-" ++ ending)

theorem cut?_append (front back : String) :
    cut? (front ++ back) front.utf8ByteSize = some front := by
  have valid : String.Pos.Raw.IsValid (front ++ back) ⟨front.utf8ByteSize⟩ :=
    String.Pos.Raw.isValid_iff_exists_append.mpr ⟨front, back, rfl, rfl⟩
  let place : (front ++ back).Pos := ⟨⟨front.utf8ByteSize⟩, valid⟩
  have divides : place.Splits front back := ⟨rfl, rfl⟩
  rw [cut?, dif_pos valid, place.splits.eq_left divides]

variable {characters : List Char}

/-- The characters of labels are single bytes. -/
theorem IsLabel.utf8ByteSize_ofList (label : IsLabel characters) :
    (String.ofList characters).utf8ByteSize = characters.length := by
  induction characters with
  | nil => rfl
  | cons character later inductionHypothesis =>
      obtain ⟨plain, label⟩ := List.forall_mem_cons.mp label
      have single : character.utf8Size = 1 :=
        Char.utf8Size_eq_one_iff.mpr (Nat.le_of_lt_succ (ascii_of_plain plain).1)
      rw [String.ofList_cons, String.utf8ByteSize_append, String.utf8ByteSize_singleton, single,
        inductionHypothesis label, List.length_cons, Nat.add_comm]

/-- A label may be cut anywhere. -/
theorem IsLabel.cut?_ofList (label : IsLabel characters) {size : Nat}
    (within : size ≤ characters.length) :
    cut? (String.ofList characters) size = some (String.ofList (characters.take size)) := by
  have front := (label.subset (List.take_subset size characters)).utf8ByteSize_ofList
  rw [List.length_take, Nat.min_eq_left within] at front
  have cut := cut?_append (String.ofList (characters.take size))
    (String.ofList (characters.drop size))
  rwa [front, ← String.ofList_append, List.take_append_drop] at cut

/-- Told in bytes the name of a bucket is the same, and no cut is refused. -/
theorem ofTopicInBytes?_eq (lead topic : String) :
    ofTopicInBytes? lead topic = some (ofTopic lead topic) := by
  -- Whatever is measured or cut is a label: the folded name and the digits of the digest.
  have label := isLabel_fold (lead ++ topic)
  have digits : IsLabel (Bytes.hex (Bytes.Sha1.digest
      (nameSpace ++ (lead ++ topic).toUTF8.toList))) :=
    fun _ mem => .inl (isAlphanumeric_of_mem_hex mem)
  have same : String.ofList (fold (lead ++ topic)) = lead ++ topic ↔
      fold (lead ++ topic) = (lead ++ topic).toList := by
    rw [← String.toList_inj, String.toList_ofList]
  rw [ofTopicInBytes?, ofTopic]
  simp only [label.utf8ByteSize_ofList, same]
  split
  · rfl
  · rw [digits.cut?_ofList (by simp [suffixLength]), label.cut?_ofList (Nat.min_le_left _ _),
      Nat.min_comm, ← List.take_eq_take_min]
    simp only [Option.bind_eq_bind, Option.bind_some, String.toList_ofList, suffix]
    split
    · rfl
    · rw [Option.some.injEq, ← String.toList_inj]
      simp

end Bytes

/-- The name of every bucket can be formed in bytes without a cut through a character, is valid, has
no two hyphens in a row, and names itself when nothing is put in front of it. -/
theorem valid_ofTopic (lead topic : String) :
    ofTopicInBytes? lead topic = some (ofTopic lead topic) ∧ Valid (ofTopic lead topic) ∧
      ¬ ['-', '-'] <:+: (ofTopic lead topic).toList ∧
      ofTopic "" (ofTopic lead topic) = ofTopic lead topic := by
  have plain := isPlain_ofTopic lead topic
  obtain ⟨valid, single⟩ := isPlain_iff_valid.mp plain
  refine ⟨ofTopicInBytes?_eq lead topic, valid, single, ?_⟩
  rw [← String.empty_append (s := ofTopic lead topic)] at plain
  rw [ofTopic_of_isPlain plain, String.empty_append]

/-- A topic gets a bucket of its own name exactly if that name is valid and has no two hyphens in a
row. -/
theorem ofTopic_eq_append_iff (lead topic : String) :
    ofTopic lead topic = lead ++ topic ↔
      Valid (lead ++ topic) ∧ ¬ ['-', '-'] <:+: (lead ++ topic).toList := by
  rw [ofTopic_eq_append_iff_isPlain, isPlain_iff_valid]

/-- A valid name with two hyphens in a row is not used as it is. -/
theorem valid_name_folded_of_hyphens :
    Valid ("" ++ "a--b") ∧ ofTopic "" "a--b" ≠ "" ++ "a--b" := by
  have label : IsLabel ("" ++ "a--b").toList := by simp [IsLabel, isAlphanumeric]
  have shortened : ¬ IsPlain ("" ++ "a--b") := by decide +kernel
  refine ⟨⟨by decide, by decide, label, by decide, by decide⟩, fun same => shortened ?_⟩
  exact ofTopic_eq_append_iff_isPlain.mp same

end BucketName

end PayloadDepot
