import PayloadDepot.Proofs.Setup.Options
import PayloadDepot.Setup.Plan

/-!
# Plans that options state

Options state a plan if the threshold, the kind of depot and whether containers
are created have their forms, as far as they are given.  The plan then holds
what they denote, the codecs as they are named and the options themselves.
Otherwise the first of the three that does not have its form is told.
-/

namespace PayloadDepot

namespace Options

variable {α : Type}

/-- The option under a key has a form, if there is one. -/
def Fits (options : Options) (key : String) (form : String → α → Prop) : Prop :=
  ∀ raw, options.get? key = some raw → ∃ value, form raw value

namespace Reads

variable {form : String → α → Prop} {breach : String → ConfigFault} {entry : Option String}
  {outcome : Except Fault (Option α)}

theorem exists_ok_iff (reads : Reads form breach entry outcome) :
    (∃ given, outcome = .ok given) ↔ ∀ raw, entry = some raw → ∃ value, form raw value := by
  cases reads with
  | absent => simp
  | formed denotes => simp [denotes]
  | malformed lacks => simp [lacks]

theorem eq_ok_iff (reads : Reads form breach entry outcome) {given : Option α} :
    outcome = .ok given ↔ Option.Rel form entry given := by
  cases reads with
  | absent => cases given <;> simp
  | formed denotes => cases given <;> simp [denotes, eq_comm]
  | malformed lacks => cases given <;> simp [lacks]

theorem eq_error_iff (reads : Reads form breach entry outcome) {fault : Fault} :
    outcome = .error fault ↔ ∃ raw, entry = some raw ∧ (∀ value, ¬ form raw value) ∧
      fault = .config (breach raw) := by
  cases reads with
  | absent => simp
  | formed denotes => simp [denotes]
  | malformed lacks => simp [lacks, eq_comm]

end Reads

end Options

namespace Plan

open Options

/-- A plan is what options state. -/
structure States (options : Options) (plan : Plan) : Prop where
  threshold : ∃ given, Option.Rel WritesUnsigned (options.get? Keys.threshold) given ∧
    plan.threshold = given.getD defaultThreshold
  depot : Option.Rel DepotKind.Named (options.get? Keys.depot) plan.depot
  createsContainers : ∃ given, Option.Rel WritesBoolean (options.get? Keys.createContainers) given ∧
    plan.createsContainers = given.getD false
  keySerializer : plan.keySerializer = options.get? Keys.keySerializer
  valueSerializer : plan.valueSerializer = options.get? Keys.valueSerializer
  wrappedValueSerializer :
    plan.wrappedValueSerializer = options.get? Keys.wrappedValueSerializer
  keyDeserializer : plan.keyDeserializer = options.get? Keys.keyDeserializer
  valueDeserializer : plan.valueDeserializer = options.get? Keys.valueDeserializer
  wrappedValueDeserializer :
    plan.wrappedValueDeserializer = options.get? Keys.wrappedValueDeserializer
  options : plan.options = options

/-- The first option that does not have its form, and what is told of it. -/
inductive FirstBreach (options : Options) : ConfigFault → Prop
  | threshold {raw : String} (given : options.get? Keys.threshold = some raw)
      (lacks : ∀ number, ¬ WritesUnsigned raw number) :
      FirstBreach options (.notUnsigned raw Keys.threshold)
  | depot {raw : String} (threshold : options.Fits Keys.threshold WritesUnsigned)
      (given : options.get? Keys.depot = some raw) (lacks : ∀ kind, ¬ DepotKind.Named raw kind) :
      FirstBreach options (.unknownDepot (folded raw))
  | createsContainers {raw : String} (threshold : options.Fits Keys.threshold WritesUnsigned)
      (depot : options.Fits Keys.depot DepotKind.Named)
      (given : options.get? Keys.createContainers = some raw)
      (lacks : ∀ value, ¬ WritesBoolean raw value) :
      FirstBreach options (.notBoolean raw Keys.createContainers)

section Reading

variable (options : Options)

theorem reads_depotOf : Reads DepotKind.Named (.unknownDepot <| folded ·)
    (options.get? Keys.depot) (depotOf options) := by
  rw [depotOf]
  cases options.get? Keys.depot with
  | none => exact .absent
  | some raw => exact DepotKind.reads_parse raw

theorem ofOptions_eq_ok_iff {plan : Plan} :
    ofOptions options = .ok plan ↔ States options plan := by
  simp only [ofOptions, bind_eq_ok_iff, (reads_unsigned? options _).eq_ok_iff,
    (reads_depotOf options).eq_ok_iff, (reads_boolean? options _).eq_ok_iff]
  constructor
  · rintro ⟨threshold, threshold_given, depot, depot_given, creates, creates_given, ⟨⟩⟩
    exact ⟨⟨threshold, threshold_given, rfl⟩, depot_given, ⟨creates, creates_given, rfl⟩,
      rfl, rfl, rfl, rfl, rfl, rfl, rfl⟩
  · rintro ⟨⟨threshold, threshold_given, same⟩, depot, ⟨creates, creates_given, sameToo⟩,
      keyS, valueS, wrappedS, keyD, valueD, wrappedD, all⟩
    refine ⟨threshold, threshold_given, plan.depot, depot, creates, creates_given, ?_⟩
    rw [← same, ← sameToo, ← keyS, ← valueS, ← wrappedS, ← keyD, ← valueD, ← wrappedD, ← all]
    rfl

theorem exists_ofOptions_iff : (∃ plan, ofOptions options = .ok plan) ↔
    options.Fits Keys.threshold WritesUnsigned ∧ options.Fits Keys.depot DepotKind.Named ∧
      options.Fits Keys.createContainers WritesBoolean := by
  rw [Fits, Fits, Fits, ← (reads_unsigned? options _).exists_ok_iff,
    ← (reads_depotOf options).exists_ok_iff, ← (reads_boolean? options _).exists_ok_iff]
  simp only [ofOptions, bind_eq_ok_iff]
  constructor
  · rintro ⟨plan, threshold, first, depot, second, creates, third, -⟩
    exact ⟨⟨threshold, first⟩, ⟨depot, second⟩, ⟨creates, third⟩⟩
  · rintro ⟨⟨threshold, first⟩, ⟨depot, second⟩, ⟨creates, third⟩⟩
    exact ⟨_, threshold, first, depot, second, creates, third, rfl⟩

theorem ofOptions_eq_error_iff {fault : Fault} : ofOptions options = .error fault ↔
    ∃ detail, FirstBreach options detail ∧ fault = .config detail := by
  simp only [ofOptions, bind_eq_error_iff, (reads_unsigned? options _).eq_error_iff,
    (reads_depotOf options).eq_error_iff, (reads_boolean? options _).eq_error_iff]
  constructor
  · rintro (⟨raw, given, lacks, rfl⟩ | ⟨_, first, rest⟩)
    · exact ⟨_, .threshold given lacks, rfl⟩
    have threshold := (reads_unsigned? options _).exists_ok_iff.mp ⟨_, first⟩
    rcases rest with ⟨raw, given, lacks, rfl⟩ | ⟨_, second, rest⟩
    · exact ⟨_, .depot threshold given lacks, rfl⟩
    have depot := (reads_depotOf options).exists_ok_iff.mp ⟨_, second⟩
    rcases rest with ⟨raw, given, lacks, rfl⟩ | ⟨_, -, ⟨⟩⟩
    exact ⟨_, .createsContainers threshold depot given lacks, rfl⟩
  · rintro ⟨detail, breach, rfl⟩
    cases breach with
    | threshold given lacks => exact .inl ⟨_, given, lacks, rfl⟩
    | depot threshold given lacks =>
        obtain ⟨_, first⟩ := (reads_unsigned? options _).exists_ok_iff.mpr threshold
        exact .inr ⟨_, first, .inl ⟨_, given, lacks, rfl⟩⟩
    | createsContainers threshold depot given lacks =>
        obtain ⟨_, first⟩ := (reads_unsigned? options _).exists_ok_iff.mpr threshold
        obtain ⟨_, second⟩ := (reads_depotOf options).exists_ok_iff.mpr depot
        exact .inr ⟨_, first, .inr ⟨_, second, .inl ⟨_, given, lacks, rfl⟩⟩⟩

/-- Options are accepted exactly if what they give of a plan has its form, and the plan is then the
one that they state; otherwise the first breach is told.  A number below 2^64 that is written in
decimal, with blanks around it and zeros before it, is read as itself. -/
theorem ofOptions_follows_grammar :
    ((∃ plan, ofOptions options = .ok plan) ↔ options.Fits Keys.threshold WritesUnsigned ∧
      options.Fits Keys.depot DepotKind.Named ∧
        options.Fits Keys.createContainers WritesBoolean) ∧
    (∀ plan, ofOptions options = .ok plan ↔ States options plan) ∧
    (∀ fault, ofOptions options = .error fault ↔
      ∃ detail, FirstBreach options detail ∧ fault = .config detail) ∧
    (∀ fault, ofOptions options = .error fault → fault.kind = .configuration) ∧
    ∀ key number zeros before after, number < 2 ^ 64 →
      (∀ blank ∈ before ++ after, Text.isBlank blank = true) →
        options.get? key = some (String.ofList (before ++ (List.replicate zeros '0' ++
          (toString number).toList) ++ after)) →
            options.unsigned? key = .ok (some number) := by
  refine ⟨exists_ofOptions_iff options, fun _ => ofOptions_eq_ok_iff options,
    fun _ => ofOptions_eq_error_iff options, fun fault refused => ?_,
    fun key number zeros before after small blanks given => ?_⟩
  · obtain ⟨detail, -, rfl⟩ := (ofOptions_eq_error_iff options).mp refused
    rfl
  · rw [(reads_unsigned? options key).eq_ok_iff, given]
    exact .some (writesUnsigned_decimal small zeros blanks)

end Reading

/-- A number with a sign and zeros, a name in capitals and a boolean between blanks are read. -/
theorem ofOptions_follows_grammar_of_spellings :
    let options : Options := .ofList [(Keys.threshold, "\t0042\n"), (Keys.depot, " FS"),
      (Keys.createContainers, "True\u00a0"), (Keys.valueSerializer, " text ")]
    let stated : Plan := {
      threshold := 42
      depot := some .fileSystem
      createsContainers := true
      valueSerializer := some " text "
      options := options }
    (∀ blank ∈ ['\t'] ++ ['\n'], Text.isBlank blank = true) ∧ (42 : Nat) < 2 ^ 64 ∧
      ofOptions options = .ok stated ∧ options.unsigned? Keys.threshold = .ok (some 42) := by
  intro options stated
  obtain ⟨-, states, -, -, decimal⟩ := ofOptions_follows_grammar options
  have blanks : ∀ blank ∈ ['\t'] ++ ['\n'], Text.isBlank blank = true :=
    List.all_eq_true.mp rfl
  have small : (42 : Nat) < 2 ^ 64 := by decide
  have read := decimal Keys.threshold 42 2 ['\t'] ['\n'] small blanks (by decide)
  have depot : options.get? Keys.depot = some " FS" := by decide
  have creates : options.get? Keys.createContainers = some "True\u00a0" := by decide
  refine ⟨blanks, small, (states stated).mpr {
    threshold := ⟨some 42, (reads_unsigned? options _).eq_ok_iff.mp read, rfl⟩
    depot := ?_
    createsContainers := ⟨some true, ?_, rfl⟩
    keySerializer := by decide
    valueSerializer := by decide
    wrappedValueSerializer := by decide
    keyDeserializer := by decide
    valueDeserializer := by decide
    wrappedValueDeserializer := by decide
    options := rfl }, read⟩
  · rw [depot]
    exact .some (DepotKind.named_iff.mpr (by decide))
  · rw [creates]
    exact .some (writesBoolean_iff.mpr (by decide))

end Plan

end PayloadDepot
