import PayloadDepot.Claim.Outcome

/-!
# References and outcomes that are read back

A reference leads to the container and the name that it was composed of, if both
are single components of a path.  Headers tell the outcome that was applied to
them last unless they told one before: outcomes are added at the end, and what
was told first counts.
-/

namespace PayloadDepot

namespace Text

/-- Whether a text is a single component of a path: not empty and without slashes. -/
def IsComponent (text : String) : Prop :=
  text ≠ "" ∧ '/' ∉ text.toList

instance (text : String) : Decidable (IsComponent text) :=
  inferInstanceAs (Decidable (_ ∧ _))

end Text

namespace Reference

theorem parts?_append {scheme container name : List Char} (containerFilled : container ≠ [])
    (containerWhole : '/' ∉ container) (nameFilled : name ≠ []) (nameWhole : '/' ∉ name) :
    parts? scheme (scheme ++ (container ++ '/' :: name)) = some (container, name) := by
  simp [parts?, Text.afterLeading?_append, Text.splitAtFirst?_append containerWhole,
    containerFilled, nameFilled, nameWhole]

/-- A composed reference leads to what it was composed of. -/
theorem locate_compose (scheme : String) {container name : String}
    (containerOk : Text.IsComponent container) (nameOk : Text.IsComponent name) :
    (compose scheme container name).locate scheme = .ok (container, name) := by
  have text : (compose scheme container name).text.toList =
      scheme.toList ++ (container.toList ++ '/' :: name.toList) := by
    simp [compose]
  have containerFilled : container.toList ≠ [] := by
    simpa using containerOk.1
  have nameFilled : name.toList ≠ [] := by
    simpa using nameOk.1
  rw [locate, text, parts?_append containerFilled containerOk.2 nameFilled nameOk.2]
  simp

/-- A reference that leads somewhere is composed of what it leads to. -/
theorem eq_compose_of_locate {scheme container name : String} {reference : Reference}
    (located : reference.locate scheme = .ok (container, name)) :
    reference = compose scheme container name := by
  rw [locate, parts?] at located
  cases leading : Text.afterLeading? scheme.toList reference.text.toList with
  | none => simp [leading] at located
  | some rest =>
      cases split : Text.splitAtFirst? '/' rest with
      | none => simp [leading, split] at located
      | some parts =>
          obtain ⟨before, behind⟩ := parts
          simp only [leading, split] at located
          split at located
          · next given =>
            split at given
            · cases given
            · cases given
              cases located
              have text := Text.eq_append_of_afterLeading? leading
              rw [(Text.splitAtFirst?_eq_some split).1] at text
              cases reference
              rw [compose, mk.injEq, ← String.toList_inj]
              simpa using text
          · cases located

/-- A reference that is composed of a container that is no component leads nowhere. -/
theorem locate_compose_of_not_isComponent (scheme : String) {container : String}
    (noComponent : ¬ Text.IsComponent container) (name : String) :
    (compose scheme container name).locate scheme =
      .error (.badReference (compose scheme container name).text) := by
  have text : (compose scheme container name).text.toList =
      scheme.toList ++ (container.toList ++ '/' :: name.toList) := by
    simp [compose]
  have nowhere : parts? scheme.toList (compose scheme container name).text.toList = none := by
    rw [text, parts?, Text.afterLeading?_append]
    by_cases slashed : '/' ∈ container.toList
    · obtain ⟨first, rest, split, whole⟩ := List.eq_append_cons_of_mem slashed
      rw [split, List.append_assoc, List.cons_append]
      simp [Text.splitAtFirst?_append whole]
    · obtain rfl : container = "" :=
        Decidable.byContradiction fun filled => noComponent ⟨filled, slashed⟩
      simp [Text.splitAtFirst?]
  rw [locate, nowhere]

end Reference

namespace Headers

theorem first?_add (headers : Headers) (key other : String) (value : ByteArray) :
    (headers.add key value).first? other =
      (headers.first? other).or (if key = other then some value else none) := by
  simp only [first?, add, List.find?_append]
  cases found : headers.entries.find? (fun header => header.key = other) with
  | none => by_cases same : key = other <;> simp [same]
  | some header => simp

theorem claimKey_ne_failureKey : claimKey ≠ failureKey := by
  decide

theorem first?_eq_none_iff (headers : Headers) (key : String) :
    headers.first? key = none ↔ headers.contains key = false := by
  simp [first?, contains]

theorem values_of_not_contains {headers : Headers} {key : String}
    (absent : headers.contains key = false) : headers.values key = [] := by
  rw [← List.head?_eq_none_iff, ← first?_eq_head?]
  exact (headers.first?_eq_none_iff key).mpr absent

end Headers

namespace Outcome

theorem ofHeaders_of_failure {headers : Headers} {description : ByteArray}
    (found : headers.first? Headers.failureKey = some description) :
    ofHeaders headers = .ok (.failed (Text.Utf8.decodeLenient description)) := by
  simp [ofHeaders, found]

theorem ofHeaders_of_claim {headers : Headers} {raw : ByteArray}
    (noFailure : headers.first? Headers.failureKey = none)
    (found : headers.first? Headers.claimKey = some raw) :
    ofHeaders headers = (Reference.ofBytes raw).map .externalized := by
  simp [ofHeaders, noFailure, found]

/-- Headers tell of a value that stays exactly if they hold neither a reference nor a report. -/
theorem ofHeaders_eq_passthrough_iff (headers : Headers) :
    ofHeaders headers = .ok .passthrough ↔
      headers.holdsClaim = false ∧ headers.holdsFailure = false := by
  rw [Headers.holdsClaim, Headers.holdsFailure, ← Headers.first?_eq_none_iff,
    ← Headers.first?_eq_none_iff]
  constructor
  · intro told
    cases failure : headers.first? Headers.failureKey with
    | some description => simp [ofHeaders_of_failure failure] at told
    | none =>
        cases claim : headers.first? Headers.claimKey with
        | none => exact ⟨rfl, rfl⟩
        | some raw =>
            rw [ofHeaders_of_claim failure claim] at told
            cases read : Reference.ofBytes raw <;> simp [read, Except.map] at told
  · rintro ⟨noClaim, noFailure⟩
    simp [ofHeaders, noClaim, noFailure]

/-- A reference that is added counts for headers that told of nothing before. -/
theorem ofHeaders_apply_externalized {headers : Headers} (noClaim : headers.holdsClaim = false)
    (noFailure : headers.holdsFailure = false) (reference : Reference) :
    ofHeaders ((externalized reference).apply headers) = .ok (.externalized reference) := by
  have claim : headers.first? Headers.claimKey = none :=
    (headers.first?_eq_none_iff _).mpr noClaim
  have failure : headers.first? Headers.failureKey = none :=
    (headers.first?_eq_none_iff _).mpr noFailure
  simp [ofHeaders, apply, Headers.first?_add, Headers.claimKey_ne_failureKey, claim, failure,
    Except.map]

/-- A reference that is added to headers with another one does not count. -/
theorem ofHeaders_apply_externalized_of_claim {headers : Headers}
    (claim : headers.holdsClaim = true) (reference : Reference) :
    ofHeaders ((externalized reference).apply headers) = ofHeaders headers := by
  cases found : headers.first? Headers.claimKey with
  | none =>
      rw [Headers.first?_eq_none_iff, ← Headers.holdsClaim, claim] at found
      exact absurd found (by decide)
  | some raw =>
      simp [ofHeaders, apply, Headers.first?_add, Headers.claimKey_ne_failureKey, found]

/-- Headers to which a report of failure is added tell of a failure. -/
theorem ofHeaders_apply_failed (headers : Headers) (description : String) :
    ∃ told, ofHeaders ((failed description).apply headers) = .ok (.failed told) := by
  cases failure : headers.first? Headers.failureKey with
  | some earlier =>
      exact ⟨Text.Utf8.decodeLenient earlier,
        by simp [ofHeaders, apply, Headers.first?_add, failure]⟩
  | none =>
      exact ⟨description, by simp [ofHeaders, apply, Headers.first?_add, failure]⟩

/-- A report is told byte for byte by headers that held none before. -/
theorem ofHeaders_apply_failed_of_none {headers : Headers}
    (noFailure : headers.holdsFailure = false) (description : String) :
    ofHeaders ((failed description).apply headers) = .ok (.failed description) := by
  have none : headers.first? Headers.failureKey = none :=
    (headers.first?_eq_none_iff _).mpr noFailure
  simp [ofHeaders, apply, Headers.first?_add, none]

/-- A reported failure counts whatever is told after it. -/
theorem ofHeaders_apply_of_failed {headers : Headers} {description : String}
    (told : ofHeaders headers = .ok (.failed description)) (later : Outcome) :
    ofHeaders (later.apply headers) = .ok (.failed description) := by
  cases found : headers.first? Headers.failureKey with
  | none =>
      rw [ofHeaders, found] at told
      cases claim : headers.first? Headers.claimKey with
      | none => simp [claim] at told
      | some raw => cases read : Reference.ofBytes raw <;> simp [claim, read, Except.map] at told
  | some raw =>
      rw [ofHeaders_of_failure found] at told
      have kept : (later.apply headers).first? Headers.failureKey = some raw := by
        cases later <;> simp [apply, Headers.first?_add, found]
      rw [ofHeaders_of_failure kept]
      exact told

theorem ofHeaders_of_holdsFailure {headers : Headers} (failure : headers.holdsFailure = true) :
    ∃ description, ofHeaders headers = .ok (.failed description) := by
  cases found : headers.first? Headers.failureKey with
  | none =>
      rw [Headers.first?_eq_none_iff, ← Headers.holdsFailure, failure] at found
      cases found
  | some description => exact ⟨_, ofHeaders_of_failure found⟩

theorem ofHeaders_of_holdsClaim {headers : Headers} (noFailure : headers.holdsFailure = false)
    (claim : headers.holdsClaim = true) :
    ∃ raw, ofHeaders headers = (Reference.ofBytes raw).map .externalized := by
  have failure : headers.first? Headers.failureKey = none :=
    (headers.first?_eq_none_iff _).mpr noFailure
  cases found : headers.first? Headers.claimKey with
  | none =>
      rw [Headers.first?_eq_none_iff, ← Headers.holdsClaim, claim] at found
      cases found
  | some raw => exact ⟨raw, ofHeaders_of_claim failure found⟩

theorem holdsFailure_apply_externalized (headers : Headers) (reference : Reference) :
    ((externalized reference).apply headers).holdsFailure = headers.holdsFailure := by
  simp [apply, Headers.holdsFailure, Headers.contains, Headers.add,
    Headers.claimKey_ne_failureKey]

end Outcome

end PayloadDepot
