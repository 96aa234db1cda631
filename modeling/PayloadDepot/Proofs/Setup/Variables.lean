import Mathlib.Data.List.Infix
import PayloadDepot.Proofs.Text.Parts
import PayloadDepot.Setup.Options

/-!
# Options from variables

A variable whose name begins with a lead gives a key: what stands behind the
lead, without its leading pairs of underscores and in lower case, with a dot for
each pair of underscores that is left.  Of several variables that give one key
the last counts, and all other options stay as they were.  Nothing asks for a
pair of underscores directly behind the lead, so variables give keys that only
begin with the letters of the lead.
-/

namespace PayloadDepot

namespace Text

/-- A text has a dot in place of each pair of underscores of another text.  The first pair is the
one before which no other pair begins, and the next ones are looked for behind it. -/
inductive Dotted : List Char → List Char → Prop
  | free {text : List Char} (none : ¬ ['_', '_'] <:+: text) : Dotted text text
  | pair {front later dotted : List Char} (first : ¬ ['_', '_'] <:+: front ++ ['_'])
      (rest : Dotted later dotted) :
      Dotted (front ++ '_' :: '_' :: later) (front ++ '.' :: dotted)

end Text

namespace Options

open Text

section Dots

/-- A pair of underscores begins with a character or stands behind it. -/
theorem pair_infix_cons_iff {character : Char} {later : List Char} :
    ['_', '_'] <:+: character :: later ↔
      (character = '_' ∧ later.head? = some '_') ∨ ['_', '_'] <:+: later := by
  rw [List.infix_cons_iff, List.cons_prefix_cons, List.singleton_prefix_iff_head?_eq_some,
    eq_comm]

theorem pairsToDots_cons {character : Char} {later : List Char}
    (single : ¬ (character = '_' ∧ later.head? = some '_')) :
    pairsToDots (character :: later) = character :: pairsToDots later := by
  rw [pairsToDots]
  rintro rest rfl
  rintro ⟨⟩
  exact single ⟨rfl, rfl⟩

theorem pairsToDots_of_free {text : List Char} (free : ¬ ['_', '_'] <:+: text) :
    pairsToDots text = text := by
  induction text with
  | nil => rfl
  | cons character later inductionHypothesis =>
      rw [pair_infix_cons_iff, not_or] at free
      rw [pairsToDots_cons free.1, inductionHypothesis free.2]

theorem pairsToDots_append {front : List Char} (first : ¬ ['_', '_'] <:+: front ++ ['_'])
    (later : List Char) :
    pairsToDots (front ++ '_' :: '_' :: later) = front ++ '.' :: pairsToDots later := by
  induction front with
  | nil => rfl
  | cons character front inductionHypothesis =>
      rw [List.cons_append, pair_infix_cons_iff, not_or] at first
      have single : ¬ (character = '_' ∧ (front ++ '_' :: '_' :: later).head? = some '_') := by
        simpa using first.1
      rw [List.cons_append, pairsToDots_cons single, inductionHypothesis first.2, List.cons_append]

theorem dotted_cons {character : Char} {later dotted : List Char} (dots : Dotted later dotted)
    (single : ¬ (character = '_' ∧ later.head? = some '_')) :
    Dotted (character :: later) (character :: dotted) := by
  cases dots with
  | free free => exact .free (by simp [pair_infix_cons_iff, single, free])
  | @pair front later dotted first rest =>
      refine @Dotted.pair (character :: front) later dotted ?_ rest
      rw [List.cons_append, pair_infix_cons_iff, not_or]
      exact ⟨by simpa using single, first⟩

theorem dotted_pairsToDots (text : List Char) : Dotted text (pairsToDots text) := by
  fun_induction pairsToDots text with
  | case1 later inductionHypothesis => exact @Dotted.pair [] _ _ (by decide) inductionHypothesis
  | case2 character later other inductionHypothesis =>
      refine dotted_cons inductionHypothesis ?_
      rintro ⟨rfl, begins⟩
      obtain ⟨rest, rfl⟩ := List.head?_eq_some_iff.mp begins
      exact other rest rfl rfl
  | case3 => exact .free (by decide)

theorem dotted_iff {text dotted : List Char} : Dotted text dotted ↔ pairsToDots text = dotted := by
  constructor
  · intro dots
    induction dots with
    | free none => exact pairsToDots_of_free none
    | pair first rest inductionHypothesis => rw [pairsToDots_append first, inductionHypothesis]
  · rintro rfl
    exact dotted_pairsToDots text

end Dots

section Names

/-- What stands behind a lead in a name gives a key: pairs of underscores are dropped, the rest is
not empty and begins with no further pair, and the key is its lower case with dots. -/
def Yields (behind : List Char) (key : String) : Prop :=
  ∃ pairs rest, behind = List.replicate (2 * pairs) '_' ++ rest ∧ rest ≠ [] ∧
    ¬ ['_', '_'] <+: rest ∧ Dotted (lowercase (String.ofList rest)).toList key.toList

/-- A name gives a key behind a lead. -/
def Gives (lead name key : String) : Prop :=
  ∃ behind, name.toList = lead.toList ++ behind ∧ Yields behind key

/-- A name gives a key behind a lead and a pair of underscores. -/
def GivesApart (lead name key : String) : Prop :=
  Gives (lead ++ "__") name key

/-- A name gives a key behind the letters of a lead, with no pair of underscores between. -/
def GivesAdjoined (lead name key : String) : Prop :=
  ∃ behind, name.toList = lead.toList ++ behind ∧ ¬ ['_', '_'] <+: behind ∧ Yields behind key

theorem dropPairs_of_not_prefix {rest : List Char} (free : ¬ ['_', '_'] <+: rest) :
    dropPairs rest = rest := by
  rw [dropPairs]
  rintro later rfl
  exact free (List.prefix_append ['_', '_'] later)

theorem dropPairs_eq_iff {behind rest : List Char} : dropPairs behind = rest ↔
    (∃ pairs, behind = List.replicate (2 * pairs) '_' ++ rest) ∧ ¬ ['_', '_'] <+: rest := by
  constructor
  · intro dropped
    fun_induction dropPairs behind with
    | case1 later inductionHypothesis =>
        obtain ⟨⟨pairs, rfl⟩, free⟩ := inductionHypothesis dropped
        exact ⟨⟨pairs + 1, rfl⟩, free⟩
    | case2 behind other =>
        subst dropped
        refine ⟨⟨0, rfl⟩, ?_⟩
        rintro ⟨later, rfl⟩
        exact other later rfl
  · rintro ⟨⟨pairs, rfl⟩, free⟩
    induction pairs with
    | zero => exact dropPairs_of_not_prefix free
    | succ pairs inductionHypothesis => exact inductionHypothesis

theorem yields_iff {behind : List Char} {key : String} : Yields behind key ↔
    dropPairs behind ≠ [] ∧
      Dotted (lowercase (String.ofList (dropPairs behind))).toList key.toList := by
  constructor
  · rintro ⟨pairs, rest, split, filled, free, dots⟩
    rw [dropPairs_eq_iff.mpr ⟨⟨pairs, split⟩, free⟩]
    exact ⟨filled, dots⟩
  · rintro ⟨filled, dots⟩
    obtain ⟨⟨pairs, split⟩, free⟩ := dropPairs_eq_iff.mp rfl
    exact ⟨pairs, dropPairs behind, split, filled, free, dots⟩

theorem lowercaseCharacter_ne_nil (character : Char) : lowercaseCharacter character ≠ [] := by
  rw [lowercaseCharacter]
  split
  · simp
  · split
    · simp
    · split <;> simp

theorem lowercase_ne_nil {text : List Char} (filled : text ≠ []) :
    (lowercase (String.ofList text)).toList ≠ [] := by
  obtain ⟨character, later, rfl⟩ := List.exists_cons_of_ne_nil filled
  rw [lowercase, String.toList_ofList, String.toList_ofList, lowercaseAfter]
  refine List.append_ne_nil_of_left_ne_nil ?_ _
  split
  · simp
  · exact lowercaseCharacter_ne_nil character

theorem pairsToDots_ne_nil {text : List Char} (filled : text ≠ []) : pairsToDots text ≠ [] := by
  fun_cases pairsToDots text <;> simp_all

theorem gives_append_iff {lead name key : String} {behind : List Char}
    (split : name.toList = lead.toList ++ behind) : Gives lead name key ↔ Yields behind key := by
  constructor
  · rintro ⟨other, splitToo, yields⟩
    rwa [List.append_cancel_left (split.symm.trans splitToo)]
  · exact fun yields => ⟨behind, split, yields⟩

/-- The key of a variable is the one that its name gives. -/
theorem keyOfVariable?_eq_some_iff {lead name key : String} :
    keyOfVariable? lead name = some key ↔ Gives lead name key := by
  rw [keyOfVariable?]
  cases found : afterLeading? lead.toList name.toList with
  | none =>
      simp only [reduceCtorEq, false_iff]
      rintro ⟨behind, split, -⟩
      rw [split, afterLeading?_append] at found
      cases found
  | some behind =>
      rw [gives_append_iff (eq_append_of_afterLeading? found), yields_iff, dotted_iff]
      dsimp only
      split
      · next nothing =>
        simp only [reduceCtorEq, false_iff, not_and]
        intro filled
        exact absurd (List.isEmpty_iff.mp nothing) (pairsToDots_ne_nil (lowercase_ne_nil filled))
      · next something =>
        have filled : dropPairs behind ≠ [] := by
          intro nothing
          rw [nothing] at something
          exact something rfl
        rw [Option.some.injEq, ← String.toList_inj, String.toList_ofList]
        exact (and_iff_right filled).symm

theorem yields_pair_iff {behind : List Char} {key : String} :
    Yields ('_' :: '_' :: behind) key ↔ Yields behind key := by
  rw [yields_iff, yields_iff, dropPairs]

/-- A name gives a key apart from the lead or adjoined to it. -/
theorem gives_iff {lead name key : String} :
    Gives lead name key ↔ GivesApart lead name key ∨ GivesAdjoined lead name key := by
  constructor
  · rintro ⟨behind, split, yields⟩
    by_cases apart : ['_', '_'] <+: behind
    · obtain ⟨later, rfl⟩ := apart
      exact .inl ⟨later, by simp [split], yields_pair_iff.mp yields⟩
    · exact .inr ⟨behind, split, apart, yields⟩
  · rintro (⟨behind, split, yields⟩ | ⟨behind, split, -, yields⟩)
    · exact ⟨'_' :: '_' :: behind, by simp [split], yields_pair_iff.mpr yields⟩
    · exact ⟨behind, split, yields⟩

end Names

section Imports

/-- What options became under a rule that says which names give which keys: the last variable that
gives a key sets it to its value, and all other keys are left as they were. -/
structure Imported (gives : String → String → Prop) (options : Options)
    (bindings : List (String × String)) (later : Options) : Prop where
  set : ∀ {earlier behind name value key}, bindings = earlier ++ (name, value) :: behind →
    gives name key → (∀ binding ∈ behind, ¬ gives binding.1 key) → later.get? key = some value
  kept : ∀ {key}, (∀ binding ∈ bindings, ¬ gives binding.1 key) →
    later.get? key = options.get? key

/-- What lies in a list with some property has a last one of its kind. -/
theorem exists_last_of_mem {α : Type} {good : α → Prop} {items : List α} {item : α}
    (mem : item ∈ items) (holds : good item) : ∃ earlier last behind,
      items = earlier ++ last :: behind ∧ good last ∧ ∀ other ∈ behind, ¬ good other := by
  induction items generalizing item with
  | nil => cases mem
  | cons first later inductionHypothesis =>
      by_cases further : ∃ other ∈ later, good other
      · obtain ⟨other, memToo, holdsToo⟩ := further
        obtain ⟨earlier, last, behind, split, holdsLast, none⟩ :=
          inductionHypothesis memToo holdsToo
        exact ⟨first :: earlier, last, behind, by rw [split, List.cons_append], holdsLast, none⟩
      · simp only [not_exists, not_and] at further
        rcases List.mem_cons.mp mem with rfl | memToo
        · exact ⟨[], item, later, rfl, holds, further⟩
        · exact absurd holds (further item memToo)

/-- If all variables that give a key have one value, the key is set to it, unless there are none. -/
theorem Imported.get?_eq_some {gives : String → String → Prop} {options later : Options}
    {bindings : List (String × String)} {key value : String}
    (imported : Imported gives options bindings later)
    (valued : ∀ binding ∈ bindings, gives binding.1 key → binding.2 = value)
    (given : (∃ binding ∈ bindings, gives binding.1 key) ∨ options.get? key = some value) :
    later.get? key = some value := by
  by_cases gave : ∃ binding ∈ bindings, gives binding.1 key
  · obtain ⟨binding, mem, gave⟩ := gave
    let good (binding : String × String) : Prop := gives binding.1 key
    have holds : good binding := gave
    obtain ⟨earlier, ⟨name, last⟩, behind, split, gives, none⟩ := exists_last_of_mem mem holds
    have same : last = value := valued _ (by simp [split]) gives
    rw [imported.set split gives none, same]
  · rw [imported.kept fun binding mem gives => gave ⟨binding, mem, gives⟩]
    exact given.resolve_left gave

variable (lead : String)

theorem get?_importVariables_of_not_gives {key : String} {bindings : List (String × String)}
    (none : ∀ binding ∈ bindings, ¬ Gives lead binding.1 key) (options : Options) :
    (importVariables lead options bindings).get? key = options.get? key := by
  induction bindings generalizing options with
  | nil => rfl
  | cons binding later inductionHypothesis =>
      rw [List.forall_mem_cons] at none
      rw [importVariables]
      split
      · next other found =>
        have different : key ≠ other := by
          rintro rfl
          exact none.1 (keyOfVariable?_eq_some_iff.mp found)
        rw [inductionHypothesis none.2, Table.get?_insert_of_ne different]
      · exact inductionHypothesis none.2 options

theorem importVariables_append (options : Options) (bindings later : List (String × String)) :
    importVariables lead options (bindings ++ later) =
      importVariables lead (importVariables lead options bindings) later := by
  induction bindings generalizing options with
  | nil => rfl
  | cons binding bindings inductionHypothesis =>
      rw [List.cons_append, importVariables, importVariables]
      split <;> exact inductionHypothesis _

theorem imported_importVariables (options : Options) (bindings : List (String × String)) :
    Imported (Gives lead) options bindings (importVariables lead options bindings) where
  set {earlier behind name value key} split gives none := by
    rw [split, importVariables_append, importVariables, keyOfVariable?_eq_some_iff.mpr gives]
    dsimp only
    rw [get?_importVariables_of_not_gives lead none, Table.get?_insert_self]
  kept none := get?_importVariables_of_not_gives lead none options

/-- What gives a key behind the lead only gives none behind the lead and a pair. -/
theorem GivesAdjoined.not_apart {lead name key : String} (adjoined : GivesAdjoined lead name key)
    (other : String) : ¬ GivesApart lead name other := by
  obtain ⟨behind, split, free, -⟩ := adjoined
  rintro ⟨later, splitToo, -⟩
  rw [split, String.toList_append, List.append_assoc] at splitToo
  exact free ⟨later, (List.append_cancel_left splitToo).symm⟩

/-- A variable whose name gives a key with no pair behind the lead is heeded, unless a later one
with the pair gives the key again. -/
theorem exists_apart_behind {names earlier behind : List String} {name key : String}
    (apart : ∀ options bindings, bindings.map Prod.fst = names →
      Imported (GivesApart lead) options bindings (importVariables lead options bindings))
    (split : names = earlier ++ name :: behind) (adjoined : GivesAdjoined lead name key) :
    ∃ other ∈ behind, GivesApart lead other key := by
  by_contra none
  simp only [not_exists, not_and] at none
  let options : Options := Table.empty.insert key "0"
  let bindings := earlier.map fun name => (name, "0")
  let later := (name :: behind).map fun name => (name, "1")
  have named : (bindings ++ later).map Prod.fst = names := by
    simp [bindings, later, split, Function.comp_def]
  -- By the rule with the pair only variables before this one count, whose value is "0".
  have unheeded : (importVariables lead options (bindings ++ later)).get? key = some "0" := by
    refine (apart options (bindings ++ later) named).get?_eq_some ?_
      (.inr (Table.get?_insert_self ..))
    intro binding mem gives
    rcases List.mem_append.mp mem with before | notBefore
    · obtain ⟨other, -, rfl⟩ := List.mem_map.mp before
      rfl
    · obtain ⟨other, memToo, rfl⟩ := List.mem_map.mp notBefore
      rcases List.mem_cons.mp memToo with rfl | memBehind
      · exact absurd gives (adjoined.not_apart key)
      · exact absurd gives (none other memBehind)
  have heeded : (importVariables lead options (bindings ++ later)).get? key = some "1" := by
    rw [importVariables_append]
    refine (imported_importVariables lead _ later).get?_eq_some ?_
      (.inl ⟨(name, "1"), List.mem_cons_self .., gives_iff.mpr (.inr adjoined)⟩)
    intro binding mem _
    obtain ⟨other, -, rfl⟩ := List.mem_map.mp mem
    rfl
  exact absurd (Option.some.inj (unheeded.symm.trans heeded)) (by decide)

/-- Where no variable gives a key behind the letters of the lead only, or another one with the pair
comes later, options become what variables with the pair make of them. -/
theorem imported_apart {options : Options} {bindings : List (String × String)}
    (outdone : ∀ earlier name behind key, bindings.map Prod.fst = earlier ++ name :: behind →
      GivesAdjoined lead name key → ∃ other ∈ behind, GivesApart lead other key) :
    Imported (GivesApart lead) options bindings (importVariables lead options bindings) := by
  have imported := imported_importVariables lead options bindings
  -- In what remains of the variables no key is given unless one with the pair gives it.
  have unheeded (earlier : List (String × String)) {behind : List (String × String)} {key : String}
      (split : bindings = earlier ++ behind)
      (none : ∀ binding ∈ behind, ¬ GivesApart lead binding.1 key) :
      ∀ binding ∈ behind, ¬ Gives lead binding.1 key := by
    intro binding mem gives
    rcases gives_iff.mp gives with apart | adjoined
    · exact none binding mem apart
    · obtain ⟨between, last, rfl⟩ := List.append_of_mem mem
      obtain ⟨other, memToo, apart⟩ := outdone ((earlier ++ between).map Prod.fst) binding.1
        (last.map Prod.fst) key (by simp [split]) adjoined
      obtain ⟨later, memLast, rfl⟩ := List.mem_map.mp memToo
      exact none later (by simp [memLast]) apart
  constructor
  · intro earlier behind name value key split gives none
    refine imported.set split (gives_iff.mpr (.inl gives)) ?_
    exact unheeded (earlier ++ [(name, value)]) (by simp [split]) none
  · intro key none
    exact imported.kept (unheeded [] rfl none)

/-- Every variable whose name gives a key behind the lead sets it, the last one of them for good,
and every other key is left as it was.  A name gives a key behind the lead and a pair of underscores
or behind the letters of the lead only.  So options become what the variables with the pair make of
them, whatever they were and whatever the values are, if and only if each variable without it is
outdone by a later one with it. -/
theorem importVariables_by_lead (lead : String) :
    (∀ options bindings,
      Imported (Gives lead) options bindings (importVariables lead options bindings)) ∧
    (∀ name key, Gives lead name key ↔ GivesApart lead name key ∨ GivesAdjoined lead name key) ∧
    ∀ names : List String,
      (∀ options bindings, bindings.map Prod.fst = names →
        Imported (GivesApart lead) options bindings (importVariables lead options bindings)) ↔
      ∀ earlier name behind key, names = earlier ++ name :: behind →
        GivesAdjoined lead name key → ∃ other ∈ behind, GivesApart lead other key := by
  refine ⟨imported_importVariables lead, fun name key => gives_iff, fun names => ⟨?_, ?_⟩⟩
  · intro apart earlier name behind key split adjoined
    exact exists_apart_behind lead apart split adjoined
  · rintro outdone options bindings rfl
    exact imported_apart lead outdone

/-- A variable of another program whose name begins with the letters of the lead changes an option:
with the lead `CC`, the name `CCCLAIMCHECK__BACKEND` gives the key of the depot's kind. -/
theorem overridden_by_other_variable :
    ¬ Imported (GivesApart "CC") (Table.empty.insert "claimcheck.backend" "memory")
      [("CCCLAIMCHECK__BACKEND", "s3")]
      (importVariables "CC" (Table.empty.insert "claimcheck.backend" "memory")
        [("CCCLAIMCHECK__BACKEND", "s3")]) := by
  intro imported
  have otherwise : ∀ binding ∈ [("CCCLAIMCHECK__BACKEND", "s3")],
      ¬ GivesApart "CC" binding.1 "claimcheck.backend" := by
    intro binding mem
    rw [List.mem_singleton.mp mem]
    rintro ⟨behind, split, -⟩
    simp at split
  have kept := imported.kept otherwise
  have heeded : (importVariables "CC" (Table.empty.insert "claimcheck.backend" "memory")
      [("CCCLAIMCHECK__BACKEND", "s3")]).get? "claimcheck.backend" = some "s3" := by
    decide +kernel
  rw [heeded, Table.get?_insert_self] at kept
  exact absurd kept (by decide)

end Imports

end Options

end PayloadDepot
