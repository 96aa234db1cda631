import PayloadDepot.Fault.Report
import PayloadDepot.Proofs.Text.Parts
import Mathlib.Data.String.Defs

/-!
# What a report shows

A report shows each line of each cause behind a margin, in order, and nothing
else but what was attempted.  The margins tell where the next cause begins, so
the causes can be told from what is shown of them: no two failures have the same
report.
-/

namespace PayloadDepot

namespace Report

/-- What stands before a line of a cause.  A cause that is alone is indented by four; of several,
each has its number before its first line, ending in the fifth column, and is indented by seven
below. -/
def margin (several : Bool) (number place : Nat) : String :=
  if several then
    if place = 0 then String.leftpad 5 ' ' (toString number) ++ ": " else "       "
  else "    "

/-- The lines that show a cause: its own, each behind its margin. -/
def linesOf (several : Bool) (number : Nat) (cause : String) : List String :=
  (cause.toList.splitOn '\n').mapIdx fun place line =>
    margin several number place ++ String.ofList line

/-- The lines that show all causes. -/
def shown (causes : List String) : List String :=
  (causes.mapIdx (linesOf (1 < causes.length))).flatten

theorem lines_ne_nil (text : String) : lines text ≠ [] := Text.split_ne_nil '\n' text

/-- The lines of a text are the only ones that give it again. -/
theorem lines_eq_iff {text : String} {parts : List String} : lines text = parts ↔
    parts ≠ [] ∧ (∀ part ∈ parts, '\n' ∉ part.toList) ∧ "\n".intercalate parts = text := by
  constructor
  · rintro rfl
    exact ⟨lines_ne_nil text, fun part mem => Text.notMem_of_mem_split mem,
      Text.intercalate_split '\n' text⟩
  · rintro ⟨filled, free, rfl⟩
    exact Text.split_intercalate filled free

theorem lines_injective {text other : String} (same : lines text = lines other) : text = other := by
  rw [← (lines_eq_iff.mp same).2.2]
  exact Text.intercalate_split '\n' other

theorem linesOf_eq_mapIdx (several : Bool) (number : Nat) (cause : String) :
    linesOf several number cause =
      (lines cause).mapIdx fun place line => margin several number place ++ line := by
  rw [linesOf, lines, Text.split, Text.splitOn_eq]
  exact List.ext_getElem (by simp) (by simp)

section Rendering

theorem margin_alone (number place : Nat) : margin false number place = "    " := rfl

theorem margin_first (number : Nat) : margin true number 0 = numberMargin number := by
  have padded : margin true number 0 =
    String.ofList (List.leftpad 5 ' ' (toString number).toList) ++ ": " := rfl
  rw [padded, List.leftpad, String.ofList_append, String.ofList_toList, String.length_toList,
    numberMargin]

theorem margin_later (number place : Nat) : margin true number (place + 1) = "       " := rfl

theorem margin_succ (several : Bool) (number place : Nat) :
    margin several number (place + 1) = margin several number 1 := by
  cases several <;> rfl

theorem foldl_lines (later : List String) (firstLine laterMargin : String) :
    later.foldl (fun shown line => shown ++ "\n" ++ laterMargin ++ line) firstLine =
      "\n".intercalate (firstLine :: later.map (laterMargin ++ ·)) := by
  induction later generalizing firstLine with
  | nil => simp
  | cons line later inductionHypothesis =>
      rw [List.foldl_cons, inductionHypothesis, List.map_cons, String.intercalate_cons_cons,
        String.append_assoc, String.intercalate_cons_append]

theorem linesOf_of_lines {cause first : String} {later : List String}
    (shape : lines cause = first :: later) (several : Bool) (number : Nat) :
    linesOf several number cause =
      (margin several number 0 ++ first) :: later.map (margin several number 1 ++ ·) := by
  simp only [linesOf_eq_mapIdx, shape, List.mapIdx_cons, margin_succ]
  exact congrArg _ (List.ext_getElem (by simp) (by simp))

theorem indent_eq (several : Bool) (number : Nat) (text : String) :
    indent (margin several number 0) (margin several number 1) text =
      "\n".intercalate (linesOf several number text) := by
  obtain ⟨first, later, shape⟩ := List.exists_cons_of_ne_nil (lines_ne_nil text)
  rw [linesOf_of_lines shape, indent, shape]
  exact foldl_lines later _ _

theorem numbered_eq (start : Nat) (causes : List String) :
    numbered start causes = causes.mapIdx fun number cause =>
      "\n".intercalate (linesOf true (start + number) cause) := by
  induction causes generalizing start with
  | nil => rfl
  | cons cause later inductionHypothesis =>
      have first := indent_eq true start cause
      rw [margin_first, margin_later] at first
      rw [numbered, List.mapIdx_cons, first, inductionHypothesis]
      simp [Nat.add_assoc, Nat.add_comm 1]

theorem causes_eq (texts : List String) :
    causes texts = (texts.mapIdx (linesOf (1 < texts.length))).map "\n".intercalate := by
  match texts with
  | [] => rfl
  | [cause] => simpa [causes, margin_alone] using indent_eq false 0 cause
  | first :: second :: later =>
      rw [causes, numbered_eq]
      simp [List.mapIdx_eq_zipIdx_map]

theorem intercalate_flatten {parts : List (List String)} (filled : ∀ part ∈ parts, part ≠ []) :
    "\n".intercalate parts.flatten = "\n".intercalate (parts.map "\n".intercalate) := by
  induction parts with
  | nil => rfl
  | cons part later inductionHypothesis =>
      have rest := inductionHypothesis fun part mem => filled part (List.mem_cons_of_mem _ mem)
      have partFilled := filled part List.mem_cons_self
      cases later with
      | nil => simp
      | cons next later =>
          have nextFilled := filled next (by simp)
          have laterFilled : (next :: later).flatten ≠ [] := by simp [nextFilled]
          rw [List.flatten_cons, String.intercalate_append_of_ne_nil partFilled laterFilled, rest]
          simp

theorem linesOf_ne_nil (several : Bool) (number : Nat) (cause : String) :
    linesOf several number cause ≠ [] := by
  simpa [linesOf_eq_mapIdx] using lines_ne_nil cause

theorem shown_ne_nil {texts : List String} (filled : texts ≠ []) : shown texts ≠ [] := by
  obtain ⟨cause, later, rfl⟩ := List.exists_cons_of_ne_nil filled
  simp [shown, List.mapIdx_cons, linesOf_ne_nil]

theorem describe_of_ne_nil (attempt : String) {texts : List String} (filled : texts ≠ []) :
    describe attempt texts = attempt ++ "\n\nCaused by:\n" ++ "\n".intercalate (shown texts) := by
  obtain ⟨cause, later, rfl⟩ := List.exists_cons_of_ne_nil filled
  rw [describe, causes_eq, shown, intercalate_flatten]
  intro part mem
  obtain ⟨number, _, rfl⟩ := List.mem_mapIdx.mp mem
  exact linesOf_ne_nil _ _ _

/-- A report is made of lines, those of the causes behind one that announces them. -/
theorem describe_eq (attempt : String) {texts : List String} (filled : texts ≠ []) :
    describe attempt texts =
      "\n".intercalate ([attempt, "", "Caused by:"] ++ shown texts) := by
  rw [describe_of_ne_nil attempt filled,
    String.intercalate_append_of_ne_nil (by simp) (shown_ne_nil filled)]
  simp [String.append_assoc]

end Rendering

section Reading

/-- Whether a line belongs to the numbered cause of the line above it. -/
def continues (line : String) : Bool :=
  (List.replicate 7 ' ').isPrefixOf line.toList

theorem continues_later (number : Nat) (line : String) :
    continues (margin true number 1 ++ line) = true := by
  rw [margin_later, continues, String.toList_append]
  rfl

theorem isDigit_of_mem_toString {number : Nat} {character : Char}
    (mem : character ∈ (toString number).toList) : character.isDigit = true := by
  rw [Nat.toString_eq_repr, Nat.toList_repr] at mem
  exact Nat.isDigit_of_mem_toDigits (by decide) (by decide) mem

/-- The digits of a number begin within the first five columns, so no seven blanks stand there. -/
theorem continues_first (number : Nat) (line : String) :
    continues (margin true number 0 ++ line) = false := by
  obtain ⟨digit, digits, shape⟩ : ∃ digit digits, (toString number).toList = digit :: digits := by
    refine List.exists_cons_of_ne_nil ?_
    rw [Nat.toString_eq_repr, Nat.toList_repr]
    exact Nat.toDigits_ne_nil
  have leads : digit ∈ (toString number).toList := by
    rw [shape]
    exact List.mem_cons_self
  have isDigit := isDigit_of_mem_toString leads
  obtain ⟨blanks, fit⟩ : ∃ blanks, 7 = (5 - (digit :: digits).length) + (blanks + 1) :=
    ⟨6 - (5 - (digit :: digits).length), by omega⟩
  rw [Bool.eq_false_iff, continues, ne_eq, List.isPrefixOf_iff_prefix, margin_first, numberMargin,
    ← String.length_toList, shape, fit, ← List.replicate_append_replicate]
  intro leading
  simp only [String.toList_append, String.toList_ofList, shape, List.append_assoc,
    List.prefix_append_right_inj, List.replicate_succ, List.cons_append,
    List.cons_prefix_cons] at leading
  rw [← leading.1] at isDigit
  exact absurd isDigit (by decide)

theorem append_inj_of_continues {below belowOther rest restOther : List String}
    (within : ∀ line ∈ below, continues line) (withinOther : ∀ line ∈ belowOther, continues line)
    (next : ∀ line ∈ rest.head?, continues line = false)
    (nextOther : ∀ line ∈ restOther.head?, continues line = false)
    (same : below ++ rest = belowOther ++ restOther) : below = belowOther ∧ rest = restOther := by
  have taken {lines : List String} (next : ∀ line ∈ lines.head?, continues line = false) :
      lines.takeWhile continues = [] := by
    cases lines with
    | nil => rfl
    | cons line later => simp [next line rfl]
  have sameBelow := congrArg (List.takeWhile continues) same
  rw [List.takeWhile_append_of_pos within, List.takeWhile_append_of_pos withinOther, taken next,
    taken nextOther, List.append_nil, List.append_nil] at sameBelow
  rw [sameBelow] at same
  exact ⟨sameBelow, List.append_cancel_left same⟩

/-- The lines of a cause end where those of the next one begin, so none is taken for one of
another cause. -/
theorem linesOf_append_inj {number : Nat} {cause other : String} {rest restOther : List String}
    (next : ∀ line ∈ rest.head?, continues line = false)
    (nextOther : ∀ line ∈ restOther.head?, continues line = false)
    (same : linesOf true number cause ++ rest = linesOf true number other ++ restOther) :
    cause = other ∧ rest = restOther := by
  obtain ⟨first, below, shape⟩ := List.exists_cons_of_ne_nil (lines_ne_nil cause)
  obtain ⟨firstOther, belowOther, shapeOther⟩ := List.exists_cons_of_ne_nil (lines_ne_nil other)
  rw [linesOf_of_lines shape, linesOf_of_lines shapeOther, List.cons_append, List.cons_append,
    List.cons.injEq, String.append_right_inj] at same
  obtain ⟨rfl, same⟩ := same
  have within (lines : List String) :
      ∀ line ∈ lines.map (margin true number 1 ++ ·), continues line := by
    intro line mem
    obtain ⟨plain, -, rfl⟩ := List.mem_map.mp mem
    exact continues_later number plain
  obtain ⟨sameBelow, sameRest⟩ :=
    append_inj_of_continues (within below) (within belowOther) next nextOther same
  have belowEq : below = belowOther :=
    (List.map_inj_right fun _ _ => (String.append_right_inj _).mp).mp sameBelow
  exact ⟨lines_injective (shape.trans (belowEq ▸ shapeOther.symm)), sameRest⟩

/-- The lines that show several causes under the numbers from a given one on. -/
def shownFrom (start : Nat) (causes : List String) : List String :=
  (causes.mapIdx fun number cause => linesOf true (start + number) cause).flatten

theorem shownFrom_cons (start : Nat) (cause : String) (later : List String) :
    shownFrom start (cause :: later) = linesOf true start cause ++ shownFrom (start + 1) later := by
  rw [shownFrom, List.mapIdx_cons, List.flatten_cons, shownFrom]
  simp [Nat.add_assoc, Nat.add_comm 1]

theorem shownFrom_eq_nil_iff {start : Nat} {causes : List String} :
    shownFrom start causes = [] ↔ causes = [] := by
  cases causes with
  | nil => simp [shownFrom]
  | cons cause later => simp [shownFrom_cons, linesOf_ne_nil]

theorem head_shownFrom (start : Nat) (causes : List String) :
    ∀ line ∈ (shownFrom start causes).head?, continues line = false := by
  cases causes with
  | nil => simp [shownFrom]
  | cons cause later =>
      obtain ⟨first, below, shape⟩ := List.exists_cons_of_ne_nil (lines_ne_nil cause)
      rw [shownFrom_cons, linesOf_of_lines shape, List.cons_append, List.head?_cons]
      intro line isFirst
      rw [← Option.mem_some.mp isFirst]
      exact continues_first start first

theorem shownFrom_injective {start : Nat} {causes others : List String}
    (same : shownFrom start causes = shownFrom start others) : causes = others := by
  induction causes generalizing start others with
  | nil => exact (shownFrom_eq_nil_iff.mp (same.symm.trans (shownFrom_eq_nil_iff.mpr rfl))).symm
  | cons cause later inductionHypothesis =>
      cases others with
      | nil => exact shownFrom_eq_nil_iff.mp (same.trans (shownFrom_eq_nil_iff.mpr rfl))
      | cons other laterOthers =>
          rw [shownFrom_cons, shownFrom_cons] at same
          obtain ⟨rfl, sameLater⟩ :=
            linesOf_append_inj (head_shownFrom _ _) (head_shownFrom _ _) same
          rw [inductionHypothesis sameLater]

theorem shown_of_several {causes : List String} (several : 1 < causes.length) :
    shown causes = shownFrom 0 causes := by
  simp [shown, shownFrom, several]

theorem shown_singleton (cause : String) :
    shown [cause] = (lines cause).map (margin false 0 0 ++ ·) := by
  obtain ⟨first, later, shape⟩ := List.exists_cons_of_ne_nil (lines_ne_nil cause)
  have alone : shown [cause] = linesOf false 0 cause := by simp [shown]
  rw [alone, linesOf_of_lines shape, shape]
  rfl

/-- A cause that is alone is not taken for one of several, unless it looks like a number itself. -/
theorem shown_singleton_ne {cause : String} (unnumbered : cause.toList.head? ≠ some '0')
    {causes : List String} (several : 1 < causes.length) : shown [cause] ≠ shown causes := by
  intro same
  obtain ⟨next, later, rfl⟩ := List.exists_cons_of_length_pos (Nat.lt_of_succ_lt several)
  obtain ⟨first, below, shape⟩ := List.exists_cons_of_ne_nil (lines_ne_nil cause)
  obtain ⟨firstNext, belowNext, shapeNext⟩ := List.exists_cons_of_ne_nil (lines_ne_nil next)
  rw [shown_singleton, shape, shown_of_several several, shownFrom_cons,
    linesOf_of_lines shapeNext] at same
  -- The four blanks of a cause that is alone are also those before the number zero.
  have zero : numberMargin 0 = "    " ++ "0: " := by decide
  have numbered : first = "0: " ++ firstNext := by
    have heads := (List.cons.inj same).1
    rwa [margin_alone, margin_first, zero, String.append_assoc, String.append_right_inj] at heads
  have text := (lines_eq_iff.mp shape).2.2
  rw [numbered, String.intercalate_cons_append] at text
  rw [← text, String.toList_append] at unnumbered
  exact unnumbered rfl

/-- What is shown of causes tells them, if the first one does not look like a number itself. -/
theorem shown_injective {causes others : List String}
    (unnumbered : ∀ cause ∈ causes.head?, cause.toList.head? ≠ some '0')
    (unnumberedOther : ∀ cause ∈ others.head?, cause.toList.head? ≠ some '0')
    (same : shown causes = shown others) : causes = others := by
  match causes, others with
  | [], [] => rfl
  | [], other :: later => exact absurd same.symm (shown_ne_nil (List.cons_ne_nil _ _))
  | cause :: later, [] => exact absurd same (shown_ne_nil (List.cons_ne_nil _ _))
  | [cause], [other] =>
      rw [shown_singleton, shown_singleton] at same
      have sameLines : lines cause = lines other :=
        (List.map_inj_right fun _ _ => (String.append_right_inj _).mp).mp same
      rw [lines_injective sameLines]
  | [cause], other :: next :: later =>
      exact absurd same (shown_singleton_ne (unnumbered cause rfl) (by simp))
  | cause :: next :: later, [other] =>
      exact absurd same.symm (shown_singleton_ne (unnumberedOther other rfl) (by simp))
  | cause :: next :: later, other :: nextOther :: laterOthers =>
      rw [shown_of_several (by simp), shown_of_several (by simp)] at same
      exact shownFrom_injective same

theorem notMem_margin (several : Bool) (number place : Nat) :
    '\n' ∉ (margin several number place).toList := by
  intro mem
  cases several with
  | false => exact absurd mem (by rw [margin_alone]; decide)
  | true =>
      cases place with
      | succ place => exact absurd mem (by rw [margin_later]; decide)
      | zero =>
          rw [margin_first, numberMargin, String.toList_append, String.toList_append,
            String.toList_ofList] at mem
          rcases List.mem_append.mp mem with lead | colon
          · rcases List.mem_append.mp lead with blank | digit
            · exact absurd (List.eq_of_mem_replicate blank) (by decide)
            · exact absurd (isDigit_of_mem_toString digit) (by decide)
          · exact absurd colon (by decide)

theorem notMem_of_mem_shown {causes : List String} {line : String} (mem : line ∈ shown causes) :
    '\n' ∉ line.toList := by
  obtain ⟨linesOfCause, memLines, memLine⟩ := List.mem_flatten.mp mem
  obtain ⟨number, _, rfl⟩ := List.mem_mapIdx.mp memLines
  rw [linesOf_eq_mapIdx] at memLine
  obtain ⟨place, _, rfl⟩ := List.mem_mapIdx.mp memLine
  rw [String.toList_append, List.mem_append, not_or]
  exact ⟨notMem_margin _ _ _, Text.notMem_of_mem_split (List.getElem_mem _)⟩

theorem describe_injective {attempt : String} {causes others : List String}
    (filled : causes ≠ []) (filledOther : others ≠ [])
    (unnumbered : ∀ cause ∈ causes.head?, cause.toList.head? ≠ some '0')
    (unnumberedOther : ∀ cause ∈ others.head?, cause.toList.head? ≠ some '0')
    (same : describe attempt causes = describe attempt others) : causes = others := by
  rw [describe_of_ne_nil attempt filled, describe_of_ne_nil attempt filledOther,
    String.append_right_inj] at same
  have sameShown := congrArg lines same
  rw [lines_eq_iff.mpr ⟨shown_ne_nil filled, fun _ => notMem_of_mem_shown, rfl⟩,
    lines_eq_iff.mpr ⟨shown_ne_nil filledOther, fun _ => notMem_of_mem_shown, rfl⟩] at sameShown
  exact shown_injective unnumbered unnumberedOther sameShown

end Reading

end Report

namespace Fault

variable {fault other : Fault} {attempt : String}

theorem message_unnumbered (fault : Fault) : fault.message.toList.head? ≠ some '0' := by
  have begins (lead rest : String) {letter : Char} (first : lead.toList.head? = some letter)
      (other : letter ≠ '0') : (lead ++ rest).toList.head? ≠ some '0' := by
    rw [String.toList_append, List.head?_append, first, Option.some_or]
    simpa using other
  match fault with
  | config detail => exact begins "Invalid configuration: " detail.message rfl (by decide)
  | storage detail _ => exact begins "Claim check backend error: " detail.message rfl (by decide)
  | badReference reference => exact begins "Bad claim check reference: " reference rfl (by decide)
  | contract detail => exact begins "Contract violation: " detail.message rfl (by decide)
  | externalization description =>
      exact begins "Claim check interceptor error:\n" description rfl (by decide)
  | coding detail => exact begins "Serialization error: " detail.message rfl (by decide)
  | io fault => exact begins "I/O error: " fault.text rfl (by decide)

/-- A report gives a fault and what caused it whole: it is the report of no other failure. -/
theorem report_eq_iff : fault.report attempt = other.report attempt ↔
    fault.message = other.message ∧ fault.chain = other.chain := by
  constructor
  · intro same
    have unnumbered (fault : Fault) :
        ∀ cause ∈ (fault.message :: fault.chain).head?, cause.toList.head? ≠ some '0' := by
      intro cause isFirst
      rw [← Option.mem_some.mp isFirst]
      exact message_unnumbered fault
    rw [report, report] at same
    have causes := Report.describe_injective (List.cons_ne_nil _ _) (List.cons_ne_nil _ _)
      (unnumbered fault) (unnumbered other) same
    exact List.cons.inj causes
  · rintro ⟨messages, chains⟩
    rw [report, report, messages, chains]

/-- The text that a caller gets of a fault: what was attempted, and each line of the fault and of
what caused it. -/
def told (fault : Fault) (attempt : String) : String :=
  "\n".intercalate (["Claim check interceptor error:", attempt, "", "Caused by:"] ++
    Report.shown (fault.message :: fault.chain))

theorem message_externalization_report (fault : Fault) (attempt : String) :
    (externalization (fault.report attempt)).message = fault.told attempt := by
  have raised : (externalization (fault.report attempt)).message =
    "Claim check interceptor error:" ++ "\n" ++ fault.report attempt := rfl
  rw [raised, report, Report.describe_eq attempt (List.cons_ne_nil _ _)]
  exact (String.intercalate_cons_of_ne_nil (by simp)).symm

/-- The text gives a fault and what caused it whole: it is told of no other failure. -/
theorem told_eq_iff : fault.told attempt = other.told attempt ↔
    fault.message = other.message ∧ fault.chain = other.chain := by
  rw [← message_externalization_report, ← message_externalization_report, ← report_eq_iff]
  constructor
  · intro same
    exact (String.append_right_inj "Claim check interceptor error:\n").mp same
  · exact congrArg fun description => (externalization description).message

end Fault

end PayloadDepot
