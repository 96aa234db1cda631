import PayloadDepot.Proofs.Setup.Plan
import PayloadDepot.Proofs.Storage.Bucket.Secret
import PayloadDepot.Storage.Bucket.Settings

/-!
# Settings that plans state

A plan states the settings of an object store depot if what it says of them has
its form and exactly one source of credentials is chosen.  Otherwise the first
breach is told: of the address, the size of parts, the way buckets are addressed
and the credentials, in this order.
-/

namespace PayloadDepot

open Options

theorem Fault.message_config (detail : ConfigFault) :
    (Fault.config detail).message = "Invalid configuration: " ++ detail.message := rfl

theorem ConfigFault.message_credentialSources (found : List String) :
    (ConfigFault.credentialSources found).message =
      s!"Exactly one credential source is required: either {Keys.credentials} = default, " ++
        s!"or {Keys.accessKeyId} with {Keys.secretAccessKeyFrom}; " ++
        "found [" ++ String.intercalate ", " found ++ "]" := rfl

namespace StoreCredentials

/-- Options choose credentials. -/
inductive Chosen (options : Options) : StoreCredentials → Prop
  | standard (named : options.get? Keys.credentials = some "default")
      (noIdentifier : options.get? Keys.accessKeyId = none)
      (noSource : options.get? Keys.secretAccessKeyFrom = none) : Chosen options .standard
  | fixed {accessKeyId raw : String} {secret : SecretSource}
      (unnamed : options.get? Keys.credentials = none)
      (identifier : options.get? Keys.accessKeyId = some accessKeyId)
      (source : options.get? Keys.secretAccessKeyFrom = some raw)
      (describes : secret.Describes raw) : Chosen options (.fixed accessKeyId secret)

/-- There is either a name of the credentials, or an identifier with a source of its secret. -/
def OneSource (options : Options) : Prop :=
  (options.get? Keys.credentials).isSome ∧ options.get? Keys.accessKeyId = none ∧
      options.get? Keys.secretAccessKeyFrom = none ∨
    options.get? Keys.credentials = none ∧ (options.get? Keys.accessKeyId).isSome ∧
      (options.get? Keys.secretAccessKeyFrom).isSome

/-- If the credentials are named, then as the standard ones. -/
def NamedOnlyStandard (options : Options) : Prop :=
  ∀ raw, options.get? Keys.credentials = some raw → raw = "default"

/-- What keeps options from choosing credentials. -/
inductive Breach (options : Options) : ConfigFault → Prop
  | choice {raw : String} (given : options.get? Keys.credentials = some raw)
      (other : raw ≠ "default") : Breach options (.credentialChoice raw)
  | sources (standard : NamedOnlyStandard options) (strange : ¬ OneSource options) :
      Breach options (.credentialSources (foundKeys options))
  | secret {accessKeyId raw : String} (unnamed : options.get? Keys.credentials = none)
      (identifier : options.get? Keys.accessKeyId = some accessKeyId)
      (source : options.get? Keys.secretAccessKeyFrom = some raw)
      (lacks : ∀ secret, ¬ SecretSource.Describes raw secret) : Breach options .secretSource

section Choosing

variable {options : Options}

theorem chosen_or_breach (options : Options) :
    (∃ credentials, Chosen options credentials) ∨ ∃ detail, Breach options detail := by
  by_cases standard : NamedOnlyStandard options
  · by_cases one : OneSource options
    · rcases one with ⟨named, noIdentifier, noSource⟩ | ⟨unnamed, identified, given⟩
      · obtain ⟨raw, named⟩ := Option.isSome_iff_exists.mp named
        obtain rfl := standard raw named
        exact .inl ⟨_, .standard named noIdentifier noSource⟩
      · obtain ⟨accessKeyId, identifier⟩ := Option.isSome_iff_exists.mp identified
        obtain ⟨raw, source⟩ := Option.isSome_iff_exists.mp given
        by_cases describes : ∃ secret, SecretSource.Describes raw secret
        · obtain ⟨secret, describes⟩ := describes
          exact .inl ⟨_, .fixed unnamed identifier source describes⟩
        · exact .inr ⟨_, .secret unnamed identifier source (not_exists.mp describes)⟩
    · exact .inr ⟨_, .sources standard one⟩
  · obtain ⟨raw, broken⟩ := not_forall.mp standard
    obtain ⟨given, other⟩ := Classical.not_imp.mp broken
    exact .inr ⟨_, .choice given other⟩

theorem ofOptions_of_fixed {accessKeyId raw : String}
    (unnamed : options.get? Keys.credentials = none)
    (identifier : options.get? Keys.accessKeyId = some accessKeyId)
    (source : options.get? Keys.secretAccessKeyFrom = some raw) :
    ofOptions options = (SecretSource.parse raw).map (.fixed accessKeyId) := by
  rw [ofOptions, choosesStandard, unnamed, identifier, source]
  change (SecretSource.parse raw >>= fun secret => _) = _
  cases SecretSource.parse raw <;> rfl

theorem Chosen.ofOptions_eq {credentials : StoreCredentials}
    (chosen : Chosen options credentials) : ofOptions options = .ok credentials := by
  cases chosen with
  | standard named noIdentifier noSource =>
      rw [ofOptions, choosesStandard, named, noIdentifier, noSource]
      rfl
  | fixed unnamed identifier source describes =>
      rw [ofOptions_of_fixed unnamed identifier source,
        SecretSource.parse_eq_ok_iff.mpr describes]
      rfl

theorem Breach.ofOptions_eq {detail : ConfigFault} (breach : Breach options detail) :
    ofOptions options = .error (.config detail) := by
  cases breach with
  | choice given other =>
      rw [ofOptions, choosesStandard, given]
      dsimp only
      rw [if_neg other]
      rfl
  | sources standard strange =>
      rw [ofOptions, choosesStandard]
      cases named : options.get? Keys.credentials with
      | none =>
          cases identifier : options.get? Keys.accessKeyId <;>
            cases source : options.get? Keys.secretAccessKeyFrom
          · rfl
          · rfl
          · rfl
          · exact absurd (by simp [OneSource, named, identifier, source]) strange
      | some raw =>
          rw [standard raw named]
          cases identifier : options.get? Keys.accessKeyId <;>
            cases source : options.get? Keys.secretAccessKeyFrom
          · exact absurd (by simp [OneSource, named, identifier, source]) strange
          · rfl
          · rfl
          · rfl
  | secret unnamed identifier source lacks =>
      rw [ofOptions_of_fixed unnamed identifier source, SecretSource.parse_of_not_describes lacks]
      rfl

theorem ofOptions_eq_ok_iff {credentials : StoreCredentials} :
    ofOptions options = .ok credentials ↔ Chosen options credentials := by
  refine ⟨fun given => ?_, Chosen.ofOptions_eq⟩
  rcases chosen_or_breach options with ⟨other, chosen⟩ | ⟨detail, breach⟩
  · rw [chosen.ofOptions_eq, Except.ok.injEq] at given
    exact given ▸ chosen
  · rw [breach.ofOptions_eq] at given
    cases given

theorem ofOptions_eq_error_iff {fault : Fault} : ofOptions options = .error fault ↔
    ∃ detail, Breach options detail ∧ fault = .config detail := by
  constructor
  · intro refused
    rcases chosen_or_breach options with ⟨credentials, chosen⟩ | ⟨detail, breach⟩
    · rw [chosen.ofOptions_eq] at refused
      cases refused
    · rw [breach.ofOptions_eq, Except.error.injEq] at refused
      exact ⟨detail, breach, refused.symm⟩
  · rintro ⟨detail, breach, rfl⟩
    exact breach.ofOptions_eq

theorem message_credentialSources (found : List String) :
    (Fault.config (.credentialSources found)).message =
      "Invalid configuration: Exactly one credential source is required: " ++
        "either claimcheck.s3.credentials = default, or claimcheck.s3.access-key-id with " ++
          "claimcheck.s3.secret-access-key.from; found [" ++ ", ".intercalate found ++ "]" := by
  have lead : "Invalid configuration: " ++
      (s!"Exactly one credential source is required: either {Keys.credentials} = default, " ++
        s!"or {Keys.accessKeyId} with {Keys.secretAccessKeyFrom}; " ++ "found [") =
      "Invalid configuration: Exactly one credential source is required: " ++
        "either claimcheck.s3.credentials = default, or claimcheck.s3.access-key-id with " ++
          "claimcheck.s3.secret-access-key.from; found [" := rfl
  rw [Fault.message_config, ConfigFault.message_credentialSources, ← lead]
  simp only [String.append_assoc]

theorem mem_foundKeys {key : String} : key ∈ foundKeys options ↔
    key ∈ [Keys.credentials, Keys.accessKeyId, Keys.secretAccessKeyFrom] ∧
      (options.get? key).isSome :=
  List.mem_filter

end Choosing

end StoreCredentials

namespace StoreSettings

/-- A text is an address, which is taken as it is. -/
def Addresses (raw address : String) : Prop :=
  (∃ rest, raw = "http://" ++ rest ∨ raw = "https://" ++ rest) ∧ address = raw

/-- Object stores allow parts of a size. -/
def Allowed (size : Nat) : Prop :=
  5 * 1024 * 1024 ≤ size ∧ size ≤ 5 * 1024 * 1024 * 1024

/-- A text writes the size of a part that is allowed. -/
def WritesPartSize (raw : String) (size : Nat) : Prop := WritesUnsigned raw size ∧ Allowed size

/-- What options give besides credentials has its form. -/
structure Formed (options : Options) : Prop where
  endpoint : options.Fits Keys.endpoint Addresses
  partSize : options.Fits Keys.partSize WritesPartSize
  pathStyle : options.Fits Keys.forcePathStyle WritesBoolean

/-- Settings are what a plan states. -/
structure States (plan : Plan) (settings : StoreSettings) : Prop where
  endpoint : Option.Rel Addresses (plan.options.get? Keys.endpoint) settings.endpoint
  region : settings.region = (plan.options.get? Keys.region).getD "us-east-1"
  bucketLead : settings.bucketLead = (plan.options.get? Keys.bucketPrefix).getD ""
  pathStyle : ∃ given, Option.Rel WritesBoolean (plan.options.get? Keys.forcePathStyle) given ∧
    settings.forcePathStyle = given.getD settings.endpoint.isSome
  credentials : StoreCredentials.Chosen plan.options settings.credentials
  partSize : ∃ given, Option.Rel WritesPartSize (plan.options.get? Keys.partSize) given ∧
    settings.partSize = given.getD (8 * 1024 * 1024)
  createsBuckets : settings.createsBuckets = plan.createsContainers

/-- The first thing that is wrong with options, and what is told of it. -/
inductive FirstBreach (options : Options) : ConfigFault → Prop
  | endpoint {raw : String} (given : options.get? Keys.endpoint = some raw)
      (lacks : ∀ address, ¬ Addresses raw address) : FirstBreach options (.endpointForm raw)
  | partSizeForm {raw : String} (endpoint : options.Fits Keys.endpoint Addresses)
      (given : options.get? Keys.partSize = some raw) (lacks : ∀ size, ¬ WritesUnsigned raw size) :
      FirstBreach options (.notUnsigned raw Keys.partSize)
  | partSizeRange {raw : String} {size : Nat} (endpoint : options.Fits Keys.endpoint Addresses)
      (given : options.get? Keys.partSize = some raw) (writes : WritesUnsigned raw size)
      (outside : ¬ Allowed size) :
      FirstBreach options (.partSizeRange size leastPartSize greatestPartSize)
  | pathStyle {raw : String} (endpoint : options.Fits Keys.endpoint Addresses)
      (partSize : options.Fits Keys.partSize WritesPartSize)
      (given : options.get? Keys.forcePathStyle = some raw)
      (lacks : ∀ value, ¬ WritesBoolean raw value) :
      FirstBreach options (.notBoolean raw Keys.forcePathStyle)
  | credentials {detail : ConfigFault} (formed : Formed options)
      (breach : StoreCredentials.Breach options detail) : FirstBreach options detail

section Parts

variable (options : Options)

theorem isAddress_iff {raw : String} :
    isAddress raw = true ↔ ∃ rest, raw = "http://" ++ rest ∨ raw = "https://" ++ rest := by
  rw [isAddress, Bool.or_eq_true, Option.isSome_iff_exists, Option.isSome_iff_exists]
  simp only [Text.afterLeading?_eq_some_iff]
  constructor
  · rintro (⟨rest, split⟩ | ⟨rest, split⟩)
    · exact ⟨.ofList rest, .inl (by rw [← String.toList_inj, split]; simp)⟩
    · exact ⟨.ofList rest, .inr (by rw [← String.toList_inj, split]; simp)⟩
  · rintro ⟨rest, rfl | rfl⟩
    · exact .inl ⟨rest.toList, by simp⟩
    · exact .inr ⟨rest.toList, by simp⟩

theorem reads_endpointOf : Reads Addresses .endpointForm (options.get? Keys.endpoint)
    (endpointOf options) := by
  rw [endpointOf]
  cases options.get? Keys.endpoint with
  | none => exact .absent
  | some raw =>
      dsimp only
      split
      · next address => exact .formed fun other => and_iff_right (isAddress_iff.mp address)
      · next other => exact .malformed fun address found => other (isAddress_iff.mpr found.1)

/-- How the size of parts is read: it is not there, it denotes an allowed one, it does not have the
form of a number, or the number is out of range. -/
inductive ReadsPartSize : Option String → Except Fault Nat → Prop
  | absent : ReadsPartSize none (.ok defaultPartSize)
  | allowed {raw : String} {size : Nat} (denotes : ∀ other, WritesUnsigned raw other ↔ other = size)
      (inside : Allowed size) : ReadsPartSize (some raw) (.ok size)
  | malformed {raw : String} (lacks : ∀ size, ¬ WritesUnsigned raw size) :
      ReadsPartSize (some raw) (.error (.config (.notUnsigned raw Keys.partSize)))
  | outside {raw : String} {size : Nat} (denotes : ∀ other, WritesUnsigned raw other ↔ other = size)
      (outside : ¬ Allowed size) :
      ReadsPartSize (some raw)
        (.error (.config (.partSizeRange size leastPartSize greatestPartSize)))

theorem reads_partSizeOf :
    ReadsPartSize (options.get? Keys.partSize) (partSizeOf options) := by
  have reads := reads_unsigned? options Keys.partSize
  rw [partSizeOf]
  generalize options.unsigned? Keys.partSize = outcome at reads ⊢
  generalize options.get? Keys.partSize = entry at reads ⊢
  cases reads with
  | absent => exact .absent
  | malformed lacks => exact .malformed lacks
  | @formed raw size denotes =>
      change ReadsPartSize _
        (if leastPartSize ≤ size ∧ size ≤ greatestPartSize then .ok size else .error _)
      split
      · next inside => exact .allowed denotes inside
      · next outside => exact .outside denotes outside

namespace ReadsPartSize

variable {entry : Option String} {outcome : Except Fault Nat}

theorem exists_ok_iff (reads : ReadsPartSize entry outcome) :
    (∃ size, outcome = .ok size) ↔ ∀ raw, entry = some raw → ∃ size, WritesPartSize raw size := by
  cases reads with
  | absent => simp
  | allowed denotes inside => simp [WritesPartSize, denotes, inside]
  | malformed lacks => simp [WritesPartSize, lacks]
  | outside denotes outside => simp [WritesPartSize, denotes, outside]

theorem eq_ok_iff (reads : ReadsPartSize entry outcome) {size : Nat} : outcome = .ok size ↔
    ∃ given, Option.Rel WritesPartSize entry given ∧ size = given.getD defaultPartSize := by
  cases reads with
  | absent => simp [Option.exists, eq_comm]
  | allowed denotes inside =>
      constructor
      · rintro ⟨⟩
        exact ⟨_, .some ⟨(denotes _).mpr rfl, inside⟩, rfl⟩
      · rintro ⟨_, ⟨writes, -⟩, rfl⟩
        rw [(denotes _).mp writes]
  | malformed lacks => simp [Option.exists, WritesPartSize, lacks]
  | outside denotes outside =>
      refine ⟨nofun, ?_⟩
      rintro ⟨_, ⟨writes, inside⟩, -⟩
      exact absurd ((denotes _).mp writes ▸ inside) outside

theorem eq_error_iff (reads : ReadsPartSize entry outcome) {fault : Fault} :
    outcome = .error fault ↔ ∃ raw, entry = some raw ∧
      ((∀ size, ¬ WritesUnsigned raw size) ∧ fault = .config (.notUnsigned raw Keys.partSize) ∨
        ∃ size, WritesUnsigned raw size ∧ ¬ Allowed size ∧
          fault = .config (.partSizeRange size leastPartSize greatestPartSize)) := by
  cases reads with
  | absent => simp
  | allowed denotes inside => simp [denotes, inside]
  | malformed lacks => simp [lacks, eq_comm]
  | outside denotes outside => simp [denotes, outside, eq_comm]

end ReadsPartSize
end Parts

section Reading

variable (plan : Plan)

theorem ofPlan_eq_ok_iff {settings : StoreSettings} :
    ofPlan plan = .ok settings ↔ States plan settings := by
  simp only [ofPlan, bind_eq_ok_iff, (reads_endpointOf _).eq_ok_iff,
    (reads_partSizeOf _).eq_ok_iff, (reads_boolean? _ _).eq_ok_iff,
    StoreCredentials.ofOptions_eq_ok_iff]
  constructor
  · rintro ⟨endpoint, address, size, sized, pathStyle, styled, credentials, chosen, ⟨⟩⟩
    exact ⟨address, rfl, rfl, ⟨pathStyle, styled, rfl⟩, chosen, sized, rfl⟩
  · rintro ⟨address, region, lead, ⟨pathStyle, styled, same⟩, chosen, sized, creates⟩
    refine ⟨_, address, _, sized, pathStyle, styled, _, chosen, ?_⟩
    rw [← same, defaultRegion, ← region, ← lead, ← creates]
    rfl

/-- The size of parts that a plan states is allowed, whether it is given or not. -/
theorem States.allowed {plan : Plan} {settings : StoreSettings} (states : States plan settings) :
    Allowed settings.partSize := by
  obtain ⟨given, stated, same⟩ := states.partSize
  rw [same]
  generalize plan.options.get? Keys.partSize = entry at stated
  cases stated with
  | none => exact ⟨by decide, by decide⟩
  | some writes => exact writes.2

theorem exists_ofPlan_iff : (∃ settings, ofPlan plan = .ok settings) ↔
    Formed plan.options ∧ ∃ credentials, StoreCredentials.Chosen plan.options credentials := by
  simp only [ofPlan, bind_eq_ok_iff, StoreCredentials.ofOptions_eq_ok_iff]
  constructor
  · rintro ⟨settings, endpoint, first, size, second, pathStyle, third, credentials, chosen, -⟩
    exact ⟨⟨(reads_endpointOf _).exists_ok_iff.mp ⟨_, first⟩,
      (reads_partSizeOf _).exists_ok_iff.mp ⟨_, second⟩,
      (reads_boolean? _ _).exists_ok_iff.mp ⟨_, third⟩⟩, credentials, chosen⟩
  · rintro ⟨⟨address, sized, styled⟩, credentials, chosen⟩
    obtain ⟨endpoint, first⟩ := (reads_endpointOf _).exists_ok_iff.mpr address
    obtain ⟨size, second⟩ := (reads_partSizeOf _).exists_ok_iff.mpr sized
    obtain ⟨pathStyle, third⟩ := (reads_boolean? _ _).exists_ok_iff.mpr styled
    exact ⟨_, endpoint, first, size, second, pathStyle, third, credentials, chosen, rfl⟩

theorem ofPlan_eq_error_iff {fault : Fault} : ofPlan plan = .error fault ↔
    ∃ detail, FirstBreach plan.options detail ∧ fault = .config detail := by
  simp only [ofPlan, bind_eq_error_iff, (reads_endpointOf _).eq_error_iff,
    (reads_partSizeOf _).eq_error_iff, (reads_boolean? _ _).eq_error_iff,
    StoreCredentials.ofOptions_eq_error_iff]
  constructor
  · rintro (⟨raw, given, lacks, rfl⟩ | ⟨_, first, rest⟩)
    · exact ⟨_, .endpoint given lacks, rfl⟩
    have address := (reads_endpointOf _).exists_ok_iff.mp ⟨_, first⟩
    rcases rest with ⟨raw, given, ⟨lacks, rfl⟩ | ⟨size, writes, outside, rfl⟩⟩ |
      ⟨_, second, rest⟩
    · exact ⟨_, .partSizeForm address given lacks, rfl⟩
    · exact ⟨_, .partSizeRange address given writes outside, rfl⟩
    have sized := (reads_partSizeOf _).exists_ok_iff.mp ⟨_, second⟩
    rcases rest with ⟨raw, given, lacks, rfl⟩ | ⟨_, third, rest⟩
    · exact ⟨_, .pathStyle address sized given lacks, rfl⟩
    have styled := (reads_boolean? _ _).exists_ok_iff.mp ⟨_, third⟩
    rcases rest with ⟨detail, breach, rfl⟩ | ⟨_, -, ⟨⟩⟩
    exact ⟨_, .credentials ⟨address, sized, styled⟩ breach, rfl⟩
  · rintro ⟨detail, breach, rfl⟩
    cases breach with
    | endpoint given lacks => exact .inl ⟨_, given, lacks, rfl⟩
    | partSizeForm address given lacks =>
        obtain ⟨_, first⟩ := (reads_endpointOf _).exists_ok_iff.mpr address
        exact .inr ⟨_, first, .inl ⟨_, given, .inl ⟨lacks, rfl⟩⟩⟩
    | partSizeRange address given writes outside =>
        obtain ⟨_, first⟩ := (reads_endpointOf _).exists_ok_iff.mpr address
        exact .inr ⟨_, first, .inl ⟨_, given, .inr ⟨_, writes, outside, rfl⟩⟩⟩
    | pathStyle address sized given lacks =>
        obtain ⟨_, first⟩ := (reads_endpointOf _).exists_ok_iff.mpr address
        obtain ⟨_, second⟩ := (reads_partSizeOf _).exists_ok_iff.mpr sized
        exact .inr ⟨_, first, .inr ⟨_, second, .inl ⟨_, given, lacks, rfl⟩⟩⟩
    | credentials formed breach =>
        obtain ⟨_, first⟩ := (reads_endpointOf _).exists_ok_iff.mpr formed.endpoint
        obtain ⟨_, second⟩ := (reads_partSizeOf _).exists_ok_iff.mpr formed.partSize
        obtain ⟨_, third⟩ := (reads_boolean? _ _).exists_ok_iff.mpr formed.pathStyle
        exact .inr ⟨_, first, .inr ⟨_, second, .inr ⟨_, third, .inl ⟨_, breach, rfl⟩⟩⟩⟩

/-- A plan gives settings exactly if what it says besides credentials has its form and credentials
are chosen, and the settings are then the ones that it states.  Otherwise the first breach is told,
which is one of the configuration.  If only the credentials are amiss, and only in that there is no
source of them or more than one, then those of their keys that are there are told in a fixed
order. -/
theorem ofPlan_requires_one_source :
    ((∃ settings, ofPlan plan = .ok settings) ↔
      Formed plan.options ∧ ∃ credentials, StoreCredentials.Chosen plan.options credentials) ∧
    (∀ settings, ofPlan plan = .ok settings ↔ States plan settings) ∧
    (∀ fault, ofPlan plan = .error fault ↔
      ∃ detail, FirstBreach plan.options detail ∧ fault = .config detail) ∧
    (∀ fault, ofPlan plan = .error fault → fault.kind = .configuration) ∧
    (Formed plan.options → StoreCredentials.NamedOnlyStandard plan.options →
      ¬ StoreCredentials.OneSource plan.options →
        ∃ found fault, ofPlan plan = .error fault ∧
          fault.message = "Invalid configuration: Exactly one credential source is required: " ++
            "either claimcheck.s3.credentials = default, or claimcheck.s3.access-key-id with " ++
              "claimcheck.s3.secret-access-key.from; found [" ++ ", ".intercalate found ++ "]" ∧
          found.Sublist [Keys.credentials, Keys.accessKeyId, Keys.secretAccessKeyFrom] ∧
          ∀ key, key ∈ found ↔
            key ∈ [Keys.credentials, Keys.accessKeyId, Keys.secretAccessKeyFrom] ∧
              (plan.options.get? key).isSome) := by
  refine ⟨exists_ofPlan_iff plan, fun _ => ofPlan_eq_ok_iff plan,
    fun _ => ofPlan_eq_error_iff plan, fun fault refused => ?_,
    fun formed standard strange => ?_⟩
  · obtain ⟨detail, -, rfl⟩ := (ofPlan_eq_error_iff plan).mp refused
    rfl
  · have refused := (ofPlan_eq_error_iff plan).mpr
      ⟨_, .credentials formed (.sources standard strange), rfl⟩
    exact ⟨_, _, refused, StoreCredentials.message_credentialSources _, List.filter_sublist,
      fun key => StoreCredentials.mem_foundKeys⟩

end Reading

/-- The least size of parts with a sign and a blank, a boolean in capitals and a secret with a colon
are read; the standard credentials together with an identifier are not. -/
theorem ofPlan_requires_one_source_of_spellings :
    let good : Plan := { options := .ofList [(Keys.endpoint, "https://store"),
      (Keys.partSize, "+5242880\n"), (Keys.forcePathStyle, "FALSE"),
      (Keys.accessKeyId, "reader"), (Keys.secretAccessKeyFrom, "value:a:b")] }
    let bad : Plan := { options := .ofList [(Keys.credentials, "default"),
      (Keys.accessKeyId, "reader")] }
    ofPlan good = .ok {
      endpoint := some "https://store"
      region := "us-east-1"
      bucketLead := ""
      forcePathStyle := false
      credentials := .fixed "reader" (.value "a:b")
      partSize := 5242880
      createsBuckets := false } ∧
    Formed bad.options ∧ StoreCredentials.NamedOnlyStandard bad.options ∧
      ¬ StoreCredentials.OneSource bad.options ∧
        ∃ fault, ofPlan bad = .error fault ∧ fault.kind = .configuration := by
  intro good bad
  obtain ⟨-, states, -, -, -⟩ := ofPlan_requires_one_source good
  obtain ⟨-, -, -, configured, sources⟩ := ofPlan_requires_one_source bad
  have size : partSizeOf good.options = .ok 5242880 := by decide
  have style : good.options.boolean? Keys.forcePathStyle = .ok (some false) := by decide
  have endpoint : good.options.get? Keys.endpoint = some "https://store" := by decide
  have formed : Formed bad.options := ⟨nofun, nofun, nofun⟩
  have standard : StoreCredentials.NamedOnlyStandard bad.options := by
    rintro raw ⟨⟩
    rfl
  have strange : ¬ StoreCredentials.OneSource bad.options := by
    rintro (⟨-, ⟨⟩, -⟩ | ⟨⟨⟩, -⟩)
  obtain ⟨found, fault, refused, -⟩ := sources formed standard strange
  refine ⟨(states _).mpr {
    endpoint := ?_
    region := rfl
    bucketLead := rfl
    pathStyle := ⟨some false, (reads_boolean? _ _).eq_ok_iff.mp style, rfl⟩
    credentials := ?_
    partSize := ?_
    createsBuckets := rfl }, formed, standard, strange, fault, refused, configured _ refused⟩
  · rw [endpoint]
    exact .some ⟨⟨"store", .inr rfl⟩, rfl⟩
  · exact .fixed rfl rfl rfl ⟨rfl, by decide⟩
  · exact (reads_partSizeOf _).eq_ok_iff.mp size

end StoreSettings

end PayloadDepot
