import PayloadDepot.Text.Parts

/-!
# Texts in parts

The parts of a text between the occurrences of a separator are the only parts
without the separator in them that give the text again when they are joined.
-/

namespace PayloadDepot

namespace Text

variable {separator : Char}

theorem splitAtFirst?_eq_some_iff {text before after : List Char} :
    splitAtFirst? separator text = some (before, after) ↔
      text = before ++ separator :: after ∧ separator ∉ before := by
  refine ⟨splitAtFirst?_eq_some, ?_⟩
  rintro ⟨rfl, absent⟩
  exact splitAtFirst?_append absent after

theorem afterLeading?_eq_some_iff {leading text rest : List Char} :
    afterLeading? leading text = some rest ↔ text = leading ++ rest := by
  refine ⟨eq_append_of_afterLeading?, ?_⟩
  rintro rfl
  exact afterLeading?_append leading rest

theorem splitEverywhere_of_absent {text : List Char} (absent : separator ∉ text) :
    splitEverywhere separator text = [text] := by
  induction text with
  | nil => rfl
  | cons character rest inductionHypothesis =>
      rw [List.mem_cons, not_or] at absent
      simp [splitEverywhere, Ne.symm absent.1, inductionHypothesis absent.2]

theorem splitEverywhere_append (before after : List Char) :
    splitEverywhere separator (before ++ separator :: after) =
      splitEverywhere separator before ++ splitEverywhere separator after := by
  induction before with
  | nil => simp [splitEverywhere]
  | cons character rest inductionHypothesis =>
      rw [List.cons_append, splitEverywhere, splitEverywhere]
      split
      · rw [inductionHypothesis, List.cons_append]
      · obtain ⟨part, parts, shape⟩ :=
          List.exists_cons_of_ne_nil (splitEverywhere_ne_nil separator rest)
        rw [inductionHypothesis, shape]
        rfl

theorem notMem_of_mem_splitEverywhere {text part : List Char}
    (mem : part ∈ splitEverywhere separator text) : separator ∉ part := by
  induction text generalizing part with
  | nil =>
      rw [splitEverywhere, List.mem_singleton] at mem
      simp [mem]
  | cons character rest inductionHypothesis =>
      rw [splitEverywhere] at mem
      split at mem
      · rcases List.mem_cons.mp mem with rfl | later
        · simp
        · exact inductionHypothesis later
      · next other =>
        obtain ⟨first, parts, shape⟩ :=
          List.exists_cons_of_ne_nil (splitEverywhere_ne_nil separator rest)
        rw [shape] at mem inductionHypothesis
        rcases List.mem_cons.mp mem with rfl | later
        · rw [List.mem_cons, not_or]
          exact ⟨Ne.symm other, inductionHypothesis (List.mem_cons_self ..)⟩
        · exact inductionHypothesis (List.mem_cons_of_mem _ later)

/-- Parts without a separator in them are the parts of what they are joined to. -/
theorem splitEverywhere_intercalate {parts : List (List Char)} (filled : parts ≠ [])
    (free : ∀ part ∈ parts, separator ∉ part) :
    splitEverywhere separator ([separator].intercalate parts) = parts := by
  induction parts with
  | nil => exact absurd rfl filled
  | cons part parts inductionHypothesis =>
      have alone := splitEverywhere_of_absent (free part (List.mem_cons_self ..))
      cases parts with
      | nil => simpa using alone
      | cons next later =>
          have joined := inductionHypothesis (List.cons_ne_nil _ _)
            fun part mem => free part (List.mem_cons_of_mem _ mem)
          rw [List.intercalate_cons_cons, List.append_assoc, List.singleton_append,
            splitEverywhere_append, alone, joined, List.singleton_append]

theorem splitOn_eq (separator : Char) (text : List Char) :
    text.splitOn separator = splitEverywhere separator text := by
  have joined := List.splitOn_intercalate separator
    (fun _ => notMem_of_mem_splitEverywhere) (splitEverywhere_ne_nil separator text)
  rwa [intercalate_splitEverywhere] at joined

theorem notMem_of_mem_split {text part : String} (mem : part ∈ split separator text) :
    separator ∉ part.toList := by
  obtain ⟨letters, splitPart, rfl⟩ := List.mem_map.mp mem
  rw [String.toList_ofList]
  exact notMem_of_mem_splitEverywhere splitPart

theorem split_ne_nil (separator : Char) (text : String) : split separator text ≠ [] := by
  simpa [split] using splitEverywhere_ne_nil separator text.toList

theorem intercalate_split (separator : Char) (text : String) :
    (String.ofList [separator]).intercalate (split separator text) = text := by
  rw [← String.toList_inj, String.toList_intercalate, split, List.map_map]
  simpa [Function.comp_def] using intercalate_splitEverywhere separator text.toList

theorem split_intercalate {parts : List String} (filled : parts ≠ [])
    (free : ∀ part ∈ parts, separator ∉ part.toList) :
    split separator ((String.ofList [separator]).intercalate parts) = parts := by
  have letters : splitEverywhere separator ([separator].intercalate (parts.map String.toList)) =
      parts.map String.toList :=
    splitEverywhere_intercalate (by simpa using filled) (by simpa using free)
  rw [split, String.toList_intercalate, String.toList_ofList, letters, List.map_map]
  simp [Function.comp_def]

end Text

end PayloadDepot
