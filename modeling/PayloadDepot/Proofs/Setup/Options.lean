import Mathlib.Algebra.Group.Nat.Defs
import PayloadDepot.Proofs.Text.Blank
import PayloadDepot.Setup.Options

/-!
# What options denote

An option has its form or it has not.  A number is written by decimal digits
behind an optional plus sign, a boolean and the kind of a depot by their names
in any case, each of them with blanks around it.  An option is read exactly if
it has its form; otherwise the fault names it.
-/

namespace PayloadDepot

section Steps

variable {α β : Type} {step : Except Fault α} {next : α → Except Fault β}

theorem bind_eq_ok_iff {result : β} :
    step >>= next = .ok result ↔ ∃ value, step = .ok value ∧ next value = .ok result := by
  cases step <;> simp [bind, Except.bind]

theorem bind_eq_error_iff {fault : Fault} :
    step >>= next = .error fault ↔
      step = .error fault ∨ ∃ value, step = .ok value ∧ next value = .error fault := by
  cases step <;> simp [bind, Except.bind]

end Steps

namespace Text

/-- A text is a word in upper or lower case, with blanks around it. -/
def Spells (text : String) (word : String) : Prop :=
  ∃ letters, Frames text.toList letters ∧ letters.map Char.toLower = word.toList

/-- Decimal digits behind an optional plus sign write a number. -/
def Numeral (text : List Char) (number : Nat) : Prop :=
  ∃ sign digits, text = sign ++ digits ∧ (sign = [] ∨ sign = ['+']) ∧ digits ≠ [] ∧
    (∀ digit ∈ digits, digit.isDigit = true) ∧ Nat.ofDigitChars 10 digits 0 = number

theorem isBlank_toLower (character : Char) : isBlank character.toLower = isBlank character := by
  unfold Char.toLower
  split
  · next upper =>
    -- Neither the letters from A to Z nor those from a to z are blank.
    have least : 65 ≤ character.val.toNat := upper.1
    have greatest : character.val.toNat ≤ 90 := upper.2
    have lower : (character.val + ('a'.val - 'A'.val)).toNat = character.val.toNat + 32 := by
      rw [UInt32.toNat_add, show ('a'.val - 'A'.val).toNat = 32 from rfl]
      exact Nat.mod_eq_of_lt (by omega)
    rw [Bool.eq_iff_iff]
    simp only [isBlank, Char.toNat, lower, Bool.or_eq_true, Bool.and_eq_true, decide_eq_true_eq,
      beq_iff_eq]
    omega
  · rfl

theorem Tight.of_toLower {text : List Char} (tight : Tight (text.map Char.toLower)) :
    Tight text where
  head character first := by
    rw [← isBlank_toLower]
    exact tight.head _ (by rw [List.head?_map, Option.mem_def.mp first]; rfl)
  last character final := by
    rw [← isBlank_toLower]
    exact tight.last _ (by rw [List.getLast?_map, Option.mem_def.mp final]; rfl)

end Text

namespace Options

/-- A text writes a number below 2^64. -/
def WritesUnsigned (raw : String) (number : Nat) : Prop :=
  ∃ core, Text.Frames raw.toList core ∧ Text.Numeral core number ∧ number < 2 ^ 64

def WritesBoolean (raw : String) (value : Bool) : Prop :=
  Text.Spells raw (toString value)

section Numbers

theorem isBlank_of_isDigit {character : Char} (isDigit : character.isDigit = true) :
    Text.isBlank character = false := by
  rw [Char.isDigit_iff_toNat] at isDigit
  have least : 48 ≤ character.toNat := isDigit.1
  have greatest : character.toNat ≤ 57 := isDigit.2
  rw [Bool.eq_false_iff, ne_eq]
  simp only [Text.isBlank, Bool.or_eq_true, Bool.and_eq_true, decide_eq_true_eq, beq_iff_eq]
  omega

/-- No blank stands at the ends of a numeral. -/
theorem tight_of_numeral {text : List Char} {number : Nat} (numeral : Text.Numeral text number) :
    Text.Tight text := by
  obtain ⟨sign, digits, rfl, signed, filled, decimal, -⟩ := numeral
  have solid : ∀ character ∈ sign ++ digits, Text.isBlank character = false := by
    intro character mem
    rcases List.mem_append.mp mem with inSign | inDigits
    · rcases signed with rfl | rfl
      · cases inSign
      · rw [List.mem_singleton.mp inSign]
        rfl
    · exact isBlank_of_isDigit (decimal character inDigits)
  exact .of_solid <| List.any_eq_false.mpr fun character mem =>
    Bool.eq_false_iff.mp (solid character mem)

theorem digit?_eq (character : Char) : digit? character =
    if character.isDigit then some (character.toNat - '0'.toNat) else none := by
  rw [digit?]
  refine if_congr ?_ rfl rfl
  rw [Char.isDigit_iff_toNat]
  rfl

theorem le_ofDigitChars (digits : List Char) (value : Nat) :
    value ≤ Nat.ofDigitChars 10 digits value := by
  rw [Nat.ofDigitChars_eq_ofDigitChars_zero]
  exact Nat.le_add_right_of_le (Nat.le_mul_of_pos_left value (Nat.pow_pos (by decide)))

/-- Digits behind a number below the bound are read as the number that all of them write, unless
that reaches the bound. -/
theorem readDigits_eq_some_iff {digits : List Char} {value number : Nat}
    (small : value < 2 ^ 64) : readDigits value digits = some number ↔
      (∀ digit ∈ digits, digit.isDigit = true) ∧ Nat.ofDigitChars 10 digits value = number ∧
        number < 2 ^ 64 := by
  induction digits generalizing value with
  | nil =>
      rw [readDigits, Option.some.injEq, Nat.ofDigitChars_nil]
      constructor
      · rintro rfl
        exact ⟨nofun, rfl, small⟩
      · exact fun told => told.2.1
  | cons digit later inductionHypothesis =>
      rw [readDigits, digit?_eq, List.forall_mem_cons, Nat.ofDigitChars_cons]
      cases digit.isDigit with
      | false => simp
      | true =>
          rw [if_pos rfl, Nat.mul_comm value 10]
          dsimp only
          split
          · next below =>
            rw [inductionHypothesis below]
            simp
          · next reached =>
            -- The digits behind only add to a number that has reached the bound.
            have least := le_ofDigitChars later (10 * value + (digit.toNat - '0'.toNat))
            simp only [reduceCtorEq, false_iff]
            rintro ⟨-, rfl, below⟩
            omega

/-- Digits write a number, none of them missing. -/
theorem readDigits_of_filled {digits : List Char} {number : Nat} :
    (if digits.isEmpty then none else readDigits 0 digits) = some number ↔
      digits ≠ [] ∧ (∀ digit ∈ digits, digit.isDigit = true) ∧
        Nat.ofDigitChars 10 digits 0 = number ∧ number < 2 ^ 64 := by
  cases digits with
  | nil => simp
  | cons digit later => simp [readDigits_eq_some_iff]

theorem readUnsigned_eq_some_iff {text : List Char} {number : Nat} :
    readUnsigned text = some number ↔ Text.Numeral text number ∧ number < 2 ^ 64 := by
  by_cases signed : ∃ digits, text = '+' :: digits
  · obtain ⟨digits, rfl⟩ := signed
    refine readDigits_of_filled.trans ?_
    constructor
    · rintro ⟨filled, decimal, denoted, small⟩
      exact ⟨⟨['+'], digits, rfl, .inr rfl, filled, decimal, denoted⟩, small⟩
    · rintro ⟨⟨sign, behind, split, rfl | rfl, filled, decimal, denoted⟩, small⟩
      · -- A sign is no digit.
        rw [List.nil_append] at split
        have digit := decimal '+' (split ▸ List.mem_cons_self ..)
        exact absurd digit (by decide)
      · obtain rfl : digits = behind := List.tail_eq_of_cons_eq split
        exact ⟨filled, decimal, denoted, small⟩
  · have unsigned : readUnsigned text = if text.isEmpty then none else readDigits 0 text := by
      rw [readUnsigned]
      exact fun digits same => signed ⟨digits, same⟩
    rw [unsigned, readDigits_of_filled]
    constructor
    · rintro ⟨filled, decimal, denoted, small⟩
      exact ⟨⟨[], text, rfl, .inl rfl, filled, decimal, denoted⟩, small⟩
    · rintro ⟨⟨sign, digits, rfl, rfl | rfl, filled, decimal, denoted⟩, small⟩
      · exact ⟨filled, decimal, denoted, small⟩
      · exact absurd ⟨digits, rfl⟩ signed

theorem readUnsigned_trimBlanks {raw : String} {number : Nat} :
    readUnsigned (Text.trimBlanks raw.toList) = some number ↔ WritesUnsigned raw number := by
  rw [readUnsigned_eq_some_iff]
  constructor
  · rintro ⟨numeral, small⟩
    exact ⟨_, Text.frames_trimBlanks _, numeral, small⟩
  · rintro ⟨core, frames, numeral, small⟩
    rw [Text.trimBlanks_eq_iff.mpr ⟨frames, tight_of_numeral numeral⟩]
    exact ⟨numeral, small⟩

/-- A number that is written in decimal, with zeros before it and blanks around it. -/
theorem writesUnsigned_decimal {number : Nat} (small : number < 2 ^ 64) (zeros : Nat)
    {before after : List Char} (blanks : ∀ blank ∈ before ++ after, Text.isBlank blank = true) :
    WritesUnsigned (String.ofList (before ++ (List.replicate zeros '0' ++
      (toString number).toList) ++ after)) number := by
  rw [List.forall_mem_append] at blanks
  rw [Nat.toString_eq_repr, Nat.toList_repr]
  let digits := List.replicate zeros '0' ++ Nat.toDigits 10 number
  have filled : digits ≠ [] := List.append_ne_nil_of_right_ne_nil _ Nat.toDigits_ne_nil
  have decimal : ∀ digit ∈ digits, digit.isDigit = true := by
    intro digit mem
    rcases List.mem_append.mp mem with zero | other
    · rw [List.eq_of_mem_replicate zero]
      rfl
    · exact Nat.isDigit_of_mem_toDigits (by decide) (by decide) other
  have denoted : Nat.ofDigitChars 10 digits 0 = number := by
    rw [Nat.ofDigitChars_append, Nat.ofDigitChars_replicate_zero, Nat.mul_zero,
      Nat.ofDigitChars_ten_toDigits]
  exact ⟨digits, ⟨before, after, String.toList_ofList, blanks.1, blanks.2⟩,
    ⟨[], digits, rfl, .inl rfl, filled, decimal, denoted⟩, small⟩

end Numbers

section Words

theorem folded_eq_iff {raw word : String} (tight : Text.Tight word.toList) :
    folded raw = word ↔ Text.Spells raw word := by
  rw [folded, ← String.toList_inj, String.toList_ofList]
  constructor
  · intro same
    exact ⟨_, Text.frames_trimBlanks _, same⟩
  · rintro ⟨letters, frames, same⟩
    have solid : Text.Tight letters := .of_toLower (same ▸ tight)
    rw [Text.trimBlanks_eq_iff.mpr ⟨frames, solid⟩, same]

theorem writesBoolean_iff {raw : String} {value : Bool} :
    WritesBoolean raw value ↔ folded raw = toString value := by
  refine (folded_eq_iff (.of_solid ?_)).symm
  cases value <;> rfl

end Words

/-- How an option is read: it is not there, it denotes one value, or it is told that it does not
have its form. -/
inductive Reads {α : Type} (form : String → α → Prop) (breach : String → ConfigFault) :
    Option String → Except Fault (Option α) → Prop
  | absent : Reads form breach none (.ok none)
  | formed {raw : String} {value : α} (denotes : ∀ other, form raw other ↔ other = value) :
      Reads form breach (some raw) (.ok (some value))
  | malformed {raw : String} (lacks : ∀ value, ¬ form raw value) :
      Reads form breach (some raw) (.error (.config (breach raw)))

section Entries

variable (options : Options) (key : String)

theorem reads_unsigned? : Reads WritesUnsigned (.notUnsigned · key) (options.get? key)
    (options.unsigned? key) := by
  rw [unsigned?]
  cases options.get? key with
  | none => exact .absent
  | some raw =>
      dsimp only
      cases read : readUnsigned (Text.trimBlanks raw.toList) with
      | some number => exact .formed fun other => by simp [← readUnsigned_trimBlanks, read, eq_comm]
      | none => exact .malformed fun number => by simp [← readUnsigned_trimBlanks, read]

theorem reads_boolean? : Reads WritesBoolean (.notBoolean · key) (options.get? key)
    (options.boolean? key) := by
  rw [boolean?]
  cases options.get? key with
  | none => exact .absent
  | some raw =>
      dsimp only
      split
      · next named =>
        refine .formed fun other => ?_
        rw [writesBoolean_iff, named]
        cases other <;> decide
      · next notTrue =>
        split
        · next named =>
          refine .formed fun other => ?_
          rw [writesBoolean_iff, named]
          cases other <;> decide
        · next notFalse =>
          refine .malformed fun value => ?_
          cases value with
          | true => rwa [writesBoolean_iff]
          | false => rwa [writesBoolean_iff]

end Entries

end Options

namespace DepotKind

/-- The names of a kind of depot. -/
def words : DepotKind → List String
  | memory => ["memory"]
  | fileSystem => ["filesystem", "fs"]
  | objectStore => ["s3"]

/-- A text names a kind of depot. -/
def Named (raw : String) (kind : DepotKind) : Prop :=
  ∃ word ∈ kind.words, Text.Spells raw word

theorem tight_words (kind : DepotKind) : ∀ word ∈ kind.words, Text.Tight word.toList := by
  intro word mem
  cases kind <;> simp only [words, List.mem_cons, List.not_mem_nil, or_false] at mem
  · exact mem ▸ .of_solid rfl
  · rcases mem with rfl | rfl <;> exact .of_solid rfl
  · exact mem ▸ .of_solid rfl

theorem named_iff {raw : String} {kind : DepotKind} :
    Named raw kind ↔ Options.folded raw ∈ kind.words := by
  constructor
  · rintro ⟨word, mem, spells⟩
    rwa [(Options.folded_eq_iff (kind.tight_words word mem)).mpr spells]
  · intro mem
    exact ⟨_, mem, (Options.folded_eq_iff (kind.tight_words _ mem)).mp rfl⟩

/-- A kind is read from its names, and no other text is one. -/
theorem reads_parse (raw : String) : Options.Reads Named (.unknownDepot <| Options.folded ·)
    (some raw) ((parse raw).map some) := by
  rw [parse]
  split
  · next named => exact .formed fun other => by cases other <;> simp [named_iff, words, named]
  · next notMemory =>
    split
    · next named =>
      refine .formed fun other => ?_
      rcases named with named | named <;> cases other <;> simp [named_iff, words, named]
    · next notFileSystem =>
      split
      · next named => exact .formed fun other => by cases other <;> simp [named_iff, words, named]
      · next notObjectStore =>
        refine .malformed fun kind => ?_
        cases kind with
        | memory => simpa [named_iff, words] using notMemory
        | fileSystem => simpa [named_iff, words] using notFileSystem
        | objectStore => simpa [named_iff, words] using notObjectStore

end DepotKind

end PayloadDepot
