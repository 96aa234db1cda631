import Mathlib.Data.List.DropRight
import Mathlib.Data.List.Induction
import PayloadDepot.Wire.Headers

/-!
# Headers through changes

One change takes out the headers of the name that it removes and puts the header
that it adds behind the others.  So after any changes a name has the values that
it started with, if it was never removed, and then those that were added since
it was last removed.  All headers together are those that were added and not
removed afterwards, in the order in which they were added.
-/

namespace PayloadDepot

namespace Headers

/-- A change of headers: one is added in place, the headers are given up for such with one more,
or all of a name are removed. -/
inductive Change where
  | add (key : String) (value : ByteArray)
  | extend (key : String) (value : ByteArray)
  | remove (key : String)
deriving DecidableEq

namespace Change

def apply (headers : Headers) : Change → Headers
  | add key value => headers.add key value
  | extend key value => headers.add key value
  | remove key => headers.remove key

/-- The header that a change adds, if it adds one. -/
def added? : Change → Option Header
  | add key value => some ⟨key, value⟩
  | extend key value => some ⟨key, value⟩
  | remove _ => none

/-- The value that a change adds under a name. -/
def valueUnder? (key : String) (change : Change) : Option ByteArray :=
  (change.added?.filter (·.key = key)).map Header.value

@[simp]
theorem valueUnder?_remove (key other : String) : (remove other).valueUnder? key = none := rfl

/-- A change takes out the headers of the name that it removes and puts its own behind the rest. -/
theorem entries_apply (headers : Headers) (change : Change) :
    (change.apply headers).entries =
      headers.entries.filter (fun header => change ≠ remove header.key) ++
        change.added?.toList := by
  cases change with
  | add key value => simp [apply, added?, Headers.add]
  | extend key value => simp [apply, added?, Headers.add]
  | remove key => simp [apply, added?, Headers.remove, eq_comm]

theorem values_apply (headers : Headers) (change : Change) (key : String) :
    (change.apply headers).values key =
      (if change = remove key then [] else headers.values key) ++
        (change.valueUnder? key).toList := by
  have kept : (headers.entries.filter (fun header => change ≠ remove header.key)).filter
      (·.key = key) = if change = remove key then [] else headers.entries.filter (·.key = key) := by
    rw [List.filter_filter]
    split
    · next removes => simp +contextual [removes]
    · next keeps =>
      refine List.filter_congr fun header _ => ?_
      by_cases same : header.key = key
      · simp [same, keeps]
      · simp [same]
  have own : (change.added?.toList.filter (·.key = key)).map Header.value =
      (change.valueUnder? key).toList := by
    rw [valueUnder?, ← Option.toList_filter, Option.toList_map]
  rw [values, entries_apply, List.filter_append, List.map_append, kept, own,
    apply_ite (List.map Header.value)]
  rfl

end Change

section Values

/-- The headers after changes, made one after the other. -/
def after (headers : Headers) (changes : List Change) : Headers :=
  changes.foldl Change.apply headers

/-- The changes behind the last removal of a name, or all of them if there was none. -/
def sinceRemoval (key : String) (changes : List Change) : List Change :=
  changes.rtakeWhile (· ≠ .remove key)

/-- What a name has gathered: its values at the start, if it was never removed, and then those
that were added since it was last removed. -/
def gathered (headers : Headers) (changes : List Change) (key : String) : List ByteArray :=
  (if .remove key ∈ changes then [] else headers.values key) ++
    (sinceRemoval key changes).filterMap (Change.valueUnder? key)

theorem gathered_concat (headers : Headers) (earlier : List Change) (last : Change)
    (key : String) : headers.gathered (earlier ++ [last]) key =
      (if last = .remove key then [] else headers.gathered earlier key) ++
        (last.valueUnder? key).toList := by
  rw [gathered, sinceRemoval, List.rtakeWhile_concat]
  by_cases removes : last = .remove key
  · simp [removes]
  · have own : [last].filterMap (Change.valueUnder? key) = (last.valueUnder? key).toList := by
      cases added : last.valueUnder? key <;> simp [added]
    simp [gathered, sinceRemoval, removes, Ne.symm removes, own]

theorem values_after (headers : Headers) (changes : List Change) (key : String) :
    (headers.after changes).values key = headers.gathered changes key := by
  -- What was gathered since a removal grows at its end, so the last change is taken off.
  induction changes using List.reverseRecOn with
  | nil => simp [after, gathered, sinceRemoval]
  | append_singleton earlier last inductionHypothesis =>
      rw [after, List.foldl_concat, Change.values_apply, gathered_concat, ← inductionHypothesis,
        after]

end Values

section Order

/-- All that happened to headers, the first of which were added themselves. -/
def course (headers : Headers) (changes : List Change) : List Change :=
  headers.entries.map (fun header => .add header.key header.value) ++ changes

/-- The header that was added at a place of a course, if one was. -/
def addedAt? (course : List Change) (place : Nat) : Option Header :=
  course[place]?.bind Change.added?

/-- A header was added at a place of a course, and its name was not removed afterwards. -/
def Stands (course : List Change) (place : Nat) : Prop :=
  ∃ header, addedAt? course place = some header ∧ .remove header.key ∉ course.drop (place + 1)

/-- The header that a change adds, if its name is not removed by a later one. -/
def outlasting? (change : Change) (later : List Change) : Option Header :=
  change.added?.filter (fun header => .remove header.key ∉ later)

def survivors : List Change → List Header
  | [] => []
  | change :: later => (outlasting? change later).toList ++ survivors later

theorem entries_after (headers : Headers) (changes : List Change) :
    (headers.after changes).entries =
      headers.entries.filter (fun header => .remove header.key ∉ changes) ++
        survivors changes := by
  -- Whether a header outlasts depends on the later changes, so the first one is taken off.
  induction changes generalizing headers with
  | nil => simp [after, survivors]
  | cons change later inductionHypothesis =>
      have made : headers.after (change :: later) = (change.apply headers).after later := rfl
      rw [made, inductionHypothesis, Change.entries_apply, List.filter_append, List.filter_filter,
        survivors, outlasting?, Option.toList_filter, List.append_assoc]
      congr 1
      refine List.filter_congr fun header _ => ?_
      simp [Bool.and_comm, eq_comm]

theorem survivors_course (headers : Headers) (changes : List Change) :
    survivors (headers.course changes) =
      headers.entries.filter (fun header => .remove header.key ∉ changes) ++
        survivors changes := by
  obtain ⟨entries⟩ := headers
  induction entries with
  | nil => rfl
  | cons header later inductionHypothesis =>
      have begun : course ⟨header :: later⟩ changes =
          .add header.key header.value :: course ⟨later⟩ changes := rfl
      have removed : .remove header.key ∈ course ⟨later⟩ changes ↔
          .remove header.key ∈ changes := by
        simp [course]
      rw [begun, survivors, inductionHypothesis, List.filter_cons, outlasting?, Change.added?,
        Option.filter_some]
      by_cases lost : .remove header.key ∈ changes
      · simp [removed, lost]
      · simp [removed, lost]

theorem stands_cons_zero {change : Change} {later : List Change} :
    Stands (change :: later) 0 ↔ ∃ header, outlasting? change later = some header := by
  simp [Stands, addedAt?, outlasting?, Option.filter_eq_some_iff]

theorem stands_cons_succ {change : Change} {later : List Change} {place : Nat} :
    Stands (change :: later) (place + 1) ↔ Stands later place := Iff.rfl

/-- The survivors of a course are the headers added at the places that stand, in ascending
order. -/
theorem exists_places (course : List Change) :
    ∃ places : List Nat, places.Pairwise (· < ·) ∧
      (∀ place, place ∈ places ↔ Stands course place) ∧
      places.map (addedAt? course) = (survivors course).map some := by
  induction course with
  | nil => exact ⟨[], .nil, by simp [Stands, addedAt?], rfl⟩
  | cons change later inductionHypothesis =>
      obtain ⟨places, ascending, standing, added⟩ := inductionHypothesis
      have shifted : (places.map (· + 1)).Pairwise (· < ·) :=
        List.pairwise_map.mpr (ascending.imp Nat.succ_lt_succ)
      have addedLater : (places.map (· + 1)).map (addedAt? (change :: later)) =
          (survivors later).map some := by
        rw [← added, List.map_map]
        rfl
      rw [survivors]
      cases own : outlasting? change later with
      | none =>
          refine ⟨places.map (· + 1), shifted, fun place => ?_, addedLater⟩
          cases place with
          | zero => simp [stands_cons_zero, own]
          | succ place => simp [stands_cons_succ, standing]
      | some header =>
          have first : addedAt? (change :: later) 0 = some header :=
            (Option.filter_eq_some_iff.mp own).1
          refine ⟨0 :: places.map (· + 1), List.pairwise_cons.mpr ⟨by simp, shifted⟩,
            fun place => ?_, ?_⟩
          · cases place with
            | zero => simp [stands_cons_zero, own]
            | succ place => simp [stands_cons_succ, standing]
          · rw [List.map_cons, addedLater, first]
            rfl

/-- Headers are an ordered multimap through every course of changes.  Under each name stand its
values at the start, if it was never removed, and then those that were added since it was last
removed; the first and the last of them are found, and there is a header of this name just if
there is such a value.  All headers together are those of the places at which one was added whose
name was not removed afterwards, in the order of these places. -/
theorem after_keeps_multimap (headers : Headers) (changes : List Change) :
    (∀ key, (headers.after changes).values key = headers.gathered changes key ∧
      (headers.after changes).first? key = (headers.gathered changes key).head? ∧
      (headers.after changes).last? key = (headers.gathered changes key).getLast? ∧
      ((headers.after changes).contains key = true ↔ headers.gathered changes key ≠ [])) ∧
    ∃ places : List Nat, places.Pairwise (· < ·) ∧
      (∀ place, place ∈ places ↔ Stands (headers.course changes) place) ∧
      places.map (addedAt? (headers.course changes)) =
        (headers.after changes).entries.map some ∧
      (headers.after changes).size = places.length := by
  constructor
  · intro key
    rw [first?_eq_head?, last?_eq_getLast?, contains_iff_values_ne_nil, values_after]
    exact ⟨rfl, rfl, rfl, Iff.rfl⟩
  · obtain ⟨places, ascending, standing, added⟩ := exists_places (headers.course changes)
    rw [survivors_course, ← entries_after] at added
    refine ⟨places, ascending, standing, added, ?_⟩
    have lengths := congrArg List.length added
    rw [List.length_map, List.length_map] at lengths
    exact lengths.symm

/-- A name that is removed and added again stands behind the others. -/
example :
    let value (byte : UInt8) : ByteArray := ⟨#[byte]⟩
    (after ⟨[⟨"a", value 1⟩, ⟨"b", value 2⟩, ⟨"ab", value 3⟩]⟩ [.add "a" (value 4),
        .extend "b" (value 5), .remove "a", .add "c" (value 6), .extend "a" (value 7),
        .remove "c"]).entries =
      [⟨"b", value 2⟩, ⟨"ab", value 3⟩, ⟨"b", value 5⟩, ⟨"a", value 7⟩] := by
  decide

end Order

end Headers

end PayloadDepot
