import PayloadDepot.Proofs.Storage.Bucket.Settings

/-!
# Secrets that are not shown

The source of a secret is read last and only into the credentials, so what a
plan makes of the texts that describe sources differs in nothing but the sources
themselves.  A secret that is given as it is, is therefore shown neither with
the settings nor by a fault, and no fault shows a text that describes no source.
-/

namespace PayloadDepot

open Keys (secretAccessKeyFrom)

namespace Options

variable {key other : String} (different : key ≠ other) (options : Options) (text : String)
include different

theorem unsigned?_insert_of_ne :
    unsigned? (options.insert other text) key = options.unsigned? key := by
  rw [unsigned?, Table.get?_insert_of_ne different, unsigned?]

theorem boolean?_insert_of_ne :
    boolean? (options.insert other text) key = options.boolean? key := by
  rw [boolean?, Table.get?_insert_of_ne different, boolean?]

end Options

/-- The source of a secret concerns nothing else of a plan. -/
theorem Plan.ofOptions_insert_secret (options : Options) (text : String) :
    ofOptions (options.insert secretAccessKeyFrom text) =
      (ofOptions options).map (·.withOption secretAccessKeyFrom text) := by
  have depot : depotOf (options.insert secretAccessKeyFrom text) = depotOf options := by
    rw [depotOf, Table.get?_insert_of_ne (by decide), depotOf]
  simp (disch := decide) only [ofOptions, depot, Options.unsigned?_insert_of_ne,
    Options.boolean?_insert_of_ne, Table.get?_insert_of_ne]
  cases options.unsigned? Keys.threshold <;> cases depotOf options <;>
    cases options.boolean? Keys.createContainers <;> rfl

namespace StoreCredentials

theorem foundKeys_insert_secret (options : Options) (text other : String) :
    foundKeys (options.insert secretAccessKeyFrom text) =
      foundKeys (options.insert secretAccessKeyFrom other) := by
  refine List.filter_congr fun key _ => ?_
  by_cases same : key = secretAccessKeyFrom
  · rw [same, Table.contains, Table.contains, Table.get?_insert_self, Table.get?_insert_self]
    rfl
  · rw [Table.contains, Table.contains, Table.get?_insert_of_ne same,
      Table.get?_insert_of_ne same]

/-- The source of a secret is read when nothing else can be amiss with the credentials. -/
theorem ofOptions_insert_secret (options : Options) : ∃ identifier : Except Fault String,
    ∀ text, ofOptions (options.insert secretAccessKeyFrom text) = do
      return .fixed (← identifier) (← SecretSource.parse text) := by
  have choice (text : String) : choosesStandard (options.insert secretAccessKeyFrom text) =
      choosesStandard options := by
    rw [choosesStandard, Table.get?_insert_of_ne (by decide), choosesStandard]
  simp (disch := decide) only [ofOptions, choice, foundKeys_insert_secret options _ "",
    Table.get?_insert_self, Table.get?_insert_of_ne]
  cases choosesStandard options with
  | error fault => exact ⟨.error fault, fun _ => rfl⟩
  | ok standardChosen =>
      cases standardChosen <;> cases options.get? Keys.accessKeyId
      · exact ⟨.error _, fun _ => rfl⟩
      · exact ⟨.ok _, fun _ => rfl⟩
      · exact ⟨.error _, fun _ => rfl⟩
      · exact ⟨.error _, fun _ => rfl⟩

end StoreCredentials

namespace StoreSettings

/-- The source of a secret is read when nothing else can be amiss with the settings, and stands in
the credentials only. -/
theorem ofPlan_withOption_secret (plan : Plan) :
    ∃ stated : Except Fault (String × StoreSettings),
      ∀ text, ofPlan (plan.withOption secretAccessKeyFrom text) = do
        let (accessKeyId, settings) ← stated
        return { settings with credentials := .fixed accessKeyId (← SecretSource.parse text) } := by
  obtain ⟨identifier, credentials⟩ := StoreCredentials.ofOptions_insert_secret plan.options
  have endpoint (text : String) : endpointOf (plan.options.insert secretAccessKeyFrom text) =
      endpointOf plan.options := by
    rw [endpointOf, Table.get?_insert_of_ne (by decide), endpointOf]
  have partSize (text : String) : partSizeOf (plan.options.insert secretAccessKeyFrom text) =
      partSizeOf plan.options := by
    rw [partSizeOf, Options.unsigned?_insert_of_ne (by decide), partSizeOf]
  simp (disch := decide) only [ofPlan, Plan.withOption, credentials, endpoint, partSize,
    Options.boolean?_insert_of_ne, Table.get?_insert_of_ne]
  rcases endpointOf plan.options with fault | endpoint
  · exact ⟨.error fault, fun _ => rfl⟩
  rcases partSizeOf plan.options with fault | partSize
  · exact ⟨.error fault, fun _ => rfl⟩
  rcases plan.options.boolean? Keys.forcePathStyle with fault | forcePathStyle
  · exact ⟨.error fault, fun _ => rfl⟩
  rcases identifier with fault | accessKeyId
  · exact ⟨.error fault, fun _ => rfl⟩
  let settings : StoreSettings := {
    endpoint := endpoint
    region := (plan.options.get? Keys.region).getD defaultRegion
    bucketLead := (plan.options.get? Keys.bucketPrefix).getD ""
    forcePathStyle := forcePathStyle.getD endpoint.isSome
    credentials := .standard
    partSize := partSize
    createsBuckets := plan.createsContainers }
  refine ⟨.ok (accessKeyId, settings), fun text => ?_⟩
  cases SecretSource.parse text <;> rfl

/-- What settings show of themselves and of their credentials. -/
def display (settings : StoreSettings) : String × String :=
  (settings.shown, settings.credentials.shown)

theorem display_fixed {source other : SecretSource} (alike : source.shown = other.shown)
    (settings : StoreSettings) (accessKeyId : String) :
    display { settings with credentials := .fixed accessKeyId source } =
      display { settings with credentials := .fixed accessKeyId other } := by
  have credentials : (StoreCredentials.fixed accessKeyId source).shown =
      (StoreCredentials.fixed accessKeyId other).shown := by
    unfold StoreCredentials.shown
    dsimp only
    rw [alike]
  -- Only the part between the texts that stand still differs.
  unfold display shown
  dsimp only
  rw [credentials]

/-- What is made of two texts is displayed alike if they describe sources that are shown alike, or
if neither of them describes a source. -/
theorem display_ofPlan_eq (plan : Plan) {text other : String}
    (alike : (SecretSource.parse text).map SecretSource.shown =
      (SecretSource.parse other).map SecretSource.shown) :
    (ofPlan (plan.withOption secretAccessKeyFrom text)).map display =
      (ofPlan (plan.withOption secretAccessKeyFrom other)).map display := by
  obtain ⟨stated, states⟩ := ofPlan_withOption_secret plan
  rw [states, states]
  cases stated with
  | error fault => rfl
  | ok given =>
      obtain ⟨accessKeyId, settings⟩ := given
      rcases readText : SecretSource.parse text with fault | source <;>
        rcases readOther : SecretSource.parse other with faultOther | sourceOther <;>
          rw [readText, readOther] at alike
      · cases alike
        rfl
      · cases alike
      · cases alike
      · exact congrArg Except.ok (display_fixed (Except.ok.inj alike) settings accessKeyId)

end StoreSettings

namespace SecretSource

theorem parse_value {secret : String} (filled : secret ≠ "") :
    parse ("value:" ++ secret) = .ok (.value secret) :=
  parse_eq_ok_iff.mpr ⟨rfl, filled⟩

/-- A secret that is given as it is, is kept letter by letter.  What settings display of themselves,
and a fault if there are none, are the same for all such secrets, whatever else is stated.  Texts
that describe no source are refused by one fault, which all of them share. -/
theorem value_kept_and_hidden (δ : Type) :
    (∀ secret ≠ "", ∃ source, parse ("value:" ++ secret) = .ok source ∧
      ∀ world : World δ, source.resolve.on world = (.ok secret, world)) ∧
    (∀ (plan : Plan) (secret other : String), secret ≠ "" → other ≠ "" →
      (StoreSettings.ofPlan
          (plan.withOption secretAccessKeyFrom ("value:" ++ secret))).map StoreSettings.display =
        (StoreSettings.ofPlan
          (plan.withOption secretAccessKeyFrom ("value:" ++ other))).map StoreSettings.display) ∧
    (∀ (options : Options) (secret other : String), secret ≠ "" → other ≠ "" →
      (Plan.ofOptions (options.insert secretAccessKeyFrom ("value:" ++ secret)) >>=
          StoreSettings.ofPlan).map StoreSettings.display =
        (Plan.ofOptions (options.insert secretAccessKeyFrom ("value:" ++ other)) >>=
          StoreSettings.ofPlan).map StoreSettings.display) ∧
    ∀ (text other : String) (fault faultOther : Fault), parse text = .error fault →
      parse other = .error faultOther → fault = faultOther ∧
        ∀ plan : Plan, StoreSettings.ofPlan (plan.withOption secretAccessKeyFrom text) =
          StoreSettings.ofPlan (plan.withOption secretAccessKeyFrom other) := by
  have alike {secret other : String} (filled : secret ≠ "") (filledOther : other ≠ "") :
      (parse ("value:" ++ secret)).map shown = (parse ("value:" ++ other)).map shown := by
    rw [parse_value filled, parse_value filledOther]
    rfl
  refine ⟨fun secret filled => ⟨_, parse_value filled, on_resolve_value secret⟩,
    fun plan secret other filled filledOther =>
      StoreSettings.display_ofPlan_eq plan (alike filled filledOther),
    fun options secret other filled filledOther => ?_,
    fun text other fault faultOther refused refusedOther => ?_⟩
  · rw [Plan.ofOptions_insert_secret, Plan.ofOptions_insert_secret]
    cases Plan.ofOptions options with
    | error fault => rfl
    | ok plan => exact StoreSettings.display_ofPlan_eq plan (alike filled filledOther)
  · obtain rfl := (parse_eq_error_iff.mp refused).2
    obtain rfl := (parse_eq_error_iff.mp refusedOther).2
    refine ⟨rfl, fun plan => ?_⟩
    obtain ⟨stated, states⟩ := StoreSettings.ofPlan_withOption_secret plan
    rw [states, states, refused, refusedOther]

/-- Secrets with colons and line breaks, and texts that lack a word or a rest. -/
theorem value_kept_and_hidden_of_colons :
    let plan : Plan := { options := .ofList [(Keys.accessKeyId, "reader")] }
    let display (text : String) := (StoreSettings.ofPlan
      (plan.withOption secretAccessKeyFrom text)).map StoreSettings.display
    " a:b\n" ≠ "" ∧ "env:" ≠ "" ∧ display "value: a:b\n" = display "value:env:" ∧
      (∃ source, parse "value: a:b\n" = .ok source ∧
        ∀ world : World Unit, source.resolve.on world = (.ok " a:b\n", world)) ∧
      parse "value:" = parse "hunter2" := by
  intro plan display
  obtain ⟨kept, hidden, -, refused⟩ := value_kept_and_hidden Unit
  have rest : parse "value:" = .error (.config .secretSource) := by decide
  have word : parse "hunter2" = .error (.config .secretSource) := by decide
  refine ⟨by decide, by decide, hidden plan " a:b\n" "env:" (by decide) (by decide),
    kept " a:b\n" (by decide), ?_⟩
  obtain ⟨same, -⟩ := refused _ _ _ _ rest word
  rw [rest, word, same]

end SecretSource

end PayloadDepot
