/-!
# Parts of texts

Leading parts, the first occurrence of a separator, and the replacement of a
pattern from left to right.
-/

namespace PayloadDepot

namespace Text

/-- What follows a leading part. -/
def afterLeading? : (leading text : List Char) → Option (List Char)
  | [], rest => some rest
  | _ :: _, [] => none
  | expected :: leading, character :: rest =>
      if expected = character then afterLeading? leading rest else none

/-- The parts before and after the first occurrence of a separator. -/
def splitAtFirst? (separator : Char) : List Char → Option (List Char × List Char)
  | [] => none
  | character :: rest =>
      if character = separator then some ([], rest)
      else (splitAtFirst? separator rest).map (fun (before, after) => (character :: before, after))

/-- The parts between all occurrences of a separator; there is one more of them than there are
separators. -/
def splitEverywhere (separator : Char) : List Char → List (List Char)
  | [] => [[]]
  | character :: rest =>
      if character = separator then [] :: splitEverywhere separator rest
      else
        match splitEverywhere separator rest with
        | [] => [[character]]
        | part :: parts => (character :: part) :: parts

def split (separator : Char) (text : String) : List String :=
  (splitEverywhere separator text.toList).map String.ofList

theorem splitEverywhere_ne_nil (separator : Char) (text : List Char) :
    splitEverywhere separator text ≠ [] := by
  cases text with
  | nil => simp [splitEverywhere]
  | cons character rest =>
    simp only [splitEverywhere]
    split
    · simp
    · split <;> simp

/-- The parts joined by the separator are the text again. -/
theorem intercalate_splitEverywhere (separator : Char) (text : List Char) :
    [separator].intercalate (splitEverywhere separator text) = text := by
  induction text with
  | nil => simp [splitEverywhere]
  | cons character rest inductionHypothesis =>
    by_cases same : character = separator
    · subst same
      obtain ⟨part, parts, shape⟩ :=
        List.exists_cons_of_ne_nil (splitEverywhere_ne_nil character rest)
      rw [shape] at inductionHypothesis
      simp only [splitEverywhere, if_true, shape]
      rw [List.intercalate_cons_cons, inductionHypothesis]
      simp
    · simp only [splitEverywhere, same, if_false]
      split
      · next empty => exact absurd empty (splitEverywhere_ne_nil separator rest)
      · next part parts shape =>
        rw [shape] at inductionHypothesis
        cases parts with
        | nil => simpa using inductionHypothesis
        | cons next later =>
          rw [List.intercalate_cons_cons] at inductionHypothesis ⊢
          simpa using inductionHypothesis

theorem afterLeading?_append (leading rest : List Char) :
    afterLeading? leading (leading ++ rest) = some rest := by
  induction leading with
  | nil => rfl
  | cons character later inductionHypothesis =>
    simp only [List.cons_append, afterLeading?, if_true, inductionHypothesis]

theorem eq_append_of_afterLeading? {leading text rest : List Char}
    (found : afterLeading? leading text = some rest) : text = leading ++ rest := by
  induction leading generalizing text with
  | nil => simpa [afterLeading?] using found
  | cons expected later inductionHypothesis =>
    cases text with
    | nil => simp [afterLeading?] at found
    | cons character text =>
      by_cases same : expected = character
      · subst same
        simp only [afterLeading?, if_true] at found
        rw [List.cons_append, ← inductionHypothesis found]
      · simp [afterLeading?, same] at found

theorem splitAtFirst?_append {separator : Char} {before : List Char}
    (absent : separator ∉ before) (after : List Char) :
    splitAtFirst? separator (before ++ separator :: after) = some (before, after) := by
  induction before with
  | nil => simp [splitAtFirst?]
  | cons character later inductionHypothesis =>
    simp only [List.mem_cons, not_or] at absent
    simp [splitAtFirst?, Ne.symm absent.1, inductionHypothesis absent.2]

theorem splitAtFirst?_eq_some {separator : Char} {text before after : List Char}
    (found : splitAtFirst? separator text = some (before, after)) :
    text = before ++ separator :: after ∧ separator ∉ before := by
  induction text generalizing before with
  | nil => simp [splitAtFirst?] at found
  | cons character later inductionHypothesis =>
    by_cases same : character = separator
    · subst same
      simp only [splitAtFirst?, if_true, Option.some.injEq, Prod.mk.injEq] at found
      obtain ⟨rfl, rfl⟩ := found
      simp
    · simp only [splitAtFirst?, same, if_false, Option.map_eq_some_iff, Prod.exists,
        Prod.mk.injEq] at found
      obtain ⟨inner, rest, split, rfl, rfl⟩ := found
      obtain ⟨equal, absent⟩ := inductionHypothesis split
      exact ⟨by rw [equal, List.cons_append], by simp [Ne.symm same, absent]⟩

end Text

end PayloadDepot
