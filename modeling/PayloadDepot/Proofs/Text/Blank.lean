import Mathlib.Data.List.DropRight
import PayloadDepot.Text.Blank

/-!
# Texts between blanks

Trimming a text gives the only part of it that has nothing but blanks around it
and neither begins nor ends with one.  A text that is compared with a word after
it was trimmed and its letters were put into lower case is the word in some
spelling, between blanks.
-/

namespace PayloadDepot

namespace Text

/-- A text is a core with nothing but blanks around it. -/
def Frames (text core : List Char) : Prop :=
  ∃ before after, text = before ++ core ++ after ∧ (∀ blank ∈ before, isBlank blank = true) ∧
    ∀ blank ∈ after, isBlank blank = true

/-- A text that neither begins nor ends with a blank. -/
structure Tight (text : List Char) : Prop where
  head : ∀ character ∈ text.head?, isBlank character = false
  last : ∀ character ∈ text.getLast?, isBlank character = false

theorem Tight.of_solid {text : List Char} (solid : text.any isBlank = false) : Tight text where
  head _ first := Bool.eq_false_iff.mpr (List.any_eq_false.mp solid _ (List.mem_of_head? first))
  last _ final := Bool.eq_false_iff.mpr (List.any_eq_false.mp solid _ (List.mem_of_getLast? final))

theorem trimBlanks_eq_rdropWhile (text : List Char) :
    trimBlanks text = (text.dropWhile isBlank).rdropWhile isBlank := rfl

theorem frames_trimBlanks (text : List Char) : Frames text (trimBlanks text) := by
  refine ⟨text.takeWhile isBlank, (text.dropWhile isBlank).rtakeWhile isBlank, ?_,
    fun blank => List.mem_takeWhile_imp, fun blank => List.mem_rtakeWhile_imp⟩
  rw [trimBlanks_eq_rdropWhile, List.append_assoc, List.rdropWhile_append_rtakeWhile,
    List.takeWhile_append_dropWhile]

theorem dropWhile_isBlank {text : List Char}
    (head : ∀ character ∈ text.head?, isBlank character = false) :
    text.dropWhile isBlank = text := by
  cases text with
  | nil => rfl
  | cons first later => exact List.dropWhile_cons_of_neg (by simp [head first rfl])

theorem rdropWhile_isBlank {text : List Char}
    (last : ∀ character ∈ text.getLast?, isBlank character = false) :
    text.rdropWhile isBlank = text := by
  rw [List.rdropWhile_eq_self_iff]
  intro filled
  simp [last _ (List.getLast?_eq_some_getLast filled)]

theorem rdropWhile_append_blanks {after : List Char}
    (blanks : ∀ blank ∈ after, isBlank blank = true) (text : List Char) :
    (text ++ after).rdropWhile isBlank = text.rdropWhile isBlank := by
  rw [List.rdropWhile, List.reverse_append,
    List.dropWhile_append_of_pos fun blank mem => blanks blank (List.mem_reverse.mp mem),
    ← List.rdropWhile]

theorem trimBlanks_of_frames {text core : List Char} (frames : Frames text core)
    (tight : Tight core) : trimBlanks text = core := by
  obtain ⟨before, after, rfl, blanksBefore, blanksAfter⟩ := frames
  rw [trimBlanks_eq_rdropWhile, List.append_assoc, List.dropWhile_append_of_pos blanksBefore]
  rcases List.eq_nil_or_concat core with rfl | ⟨front, final, rfl⟩
  · rw [List.nil_append, List.dropWhile_eq_nil_iff.mpr blanksAfter, List.rdropWhile_nil]
  · have head : ∀ character ∈ (front.concat final ++ after).head?, isBlank character = false := by
      rw [List.head?_append_of_ne_nil _ (by simp)]
      exact tight.head
    rw [dropWhile_isBlank head, rdropWhile_append_blanks blanksAfter,
      rdropWhile_isBlank tight.last]

theorem tight_trimBlanks (text : List Char) : Tight (trimBlanks text) where
  head character first := by
    have solid := List.head?_dropWhile_not isBlank text
    obtain ⟨later, split⟩ : trimBlanks text <+: text.dropWhile isBlank :=
      List.rdropWhile_prefix isBlank (text.dropWhile isBlank)
    have firstToo : (text.dropWhile isBlank).head? = some character := by
      rw [← split, List.head?_append, Option.mem_def.mp first, Option.some_or]
    rwa [firstToo] at solid
  last character final := by
    have solid := List.head?_dropWhile_not isBlank (text.dropWhile isBlank).reverse
    rw [Option.mem_def, trimBlanks, List.getLast?_reverse] at final
    rwa [final] at solid

/-- Trimming leaves the only part of a text between blanks that neither begins nor ends with one. -/
theorem trimBlanks_eq_iff {text core : List Char} :
    trimBlanks text = core ↔ Frames text core ∧ Tight core := by
  constructor
  · rintro rfl
    exact ⟨frames_trimBlanks text, tight_trimBlanks text⟩
  · rintro ⟨frames, tight⟩
    exact trimBlanks_of_frames frames tight

end Text

end PayloadDepot
