import PayloadDepot.Proofs.Outbound.Chain

/-!
# Outcomes told one after the other

Every outcome but that of a value that stays adds one header behind those that
are there.  What counts of several is the first failure, or the first reference
if nothing failed.  Headers that tell nothing intelligible are those without a
report whose first reference is no text.
-/

namespace PayloadDepot

namespace Text.Utf8

theorem decode_eq_ok_iff {bytes : ByteArray} {text : String} :
    decode bytes = .ok text ↔ text.toUTF8 = bytes := by
  constructor
  · intro decoded
    rw [decode] at decoded
    split at decoded
    · next given found =>
      cases decoded
      rw [String.fromUTF8?] at found
      split at found
      · cases found
        rfl
      · cases found
    · cases decoded
  · rintro rfl
    exact decode_toByteArray text

end Text.Utf8

theorem Reference.ofBytes_eq_error_iff {raw : ByteArray} :
    (∃ fault, ofBytes raw = .error fault) ↔ ¬ ∃ text : String, text.toUTF8 = raw := by
  simp only [← Text.Utf8.decode_eq_ok_iff]
  rw [ofBytes]
  cases Text.Utf8.decode raw <;> simp

namespace Outcome

/-- The header that tells an outcome, if one does. -/
def header? : Outcome → Option Header
  | passthrough => none
  | externalized reference => some ⟨Headers.claimKey, reference.toBytes⟩
  | failed description => some ⟨Headers.failureKey, description.toUTF8⟩

def reference? : Outcome → Option Reference
  | externalized reference => some reference
  | _ => none

def description? : Outcome → Option String
  | failed description => some description
  | _ => none

/-- The outcome that counts of several: the first failure, or the first reference if nothing
failed. -/
def counting (outcomes : List Outcome) : Outcome :=
  match outcomes.findSome? description?, outcomes.findSome? reference? with
  | some description, _ => failed description
  | none, some reference => externalized reference
  | none, none => passthrough

theorem entries_apply (outcome : Outcome) (headers : Headers) :
    (outcome.apply headers).entries = headers.entries ++ outcome.header?.toList := by
  cases outcome <;> simp [apply, header?, Headers.add]

theorem isSome_header? (outcome : Outcome) : outcome.header?.isSome = !outcome.isPassthrough := by
  cases outcome <;> rfl

theorem first?_claimKey_apply (outcome : Outcome) (headers : Headers) :
    (outcome.apply headers).first? Headers.claimKey =
      (headers.first? Headers.claimKey).or (outcome.reference?.map Reference.toBytes) := by
  cases outcome <;>
    simp [apply, reference?, Headers.first?_add, Headers.claimKey_ne_failureKey.symm]

theorem first?_failureKey_apply (outcome : Outcome) (headers : Headers) :
    (outcome.apply headers).first? Headers.failureKey =
      (headers.first? Headers.failureKey).or (outcome.description?.map String.toUTF8) := by
  cases outcome <;> simp [apply, description?, Headers.first?_add, Headers.claimKey_ne_failureKey]

end Outcome

namespace Headers

theorem entries_telling (outcomes : List Outcome) (headers : Headers) :
    (headers.telling outcomes).entries = headers.entries ++ outcomes.filterMap Outcome.header? := by
  induction outcomes generalizing headers with
  | nil => simp [telling]
  | cons outcome later inductionHypothesis =>
      have told : headers.telling (outcome :: later) = (outcome.apply headers).telling later := rfl
      rw [told, inductionHypothesis, Outcome.entries_apply, List.append_assoc]
      cases shape : outcome.header? <;> simp [shape]

/-- The first value under a key, if every outcome adds at most one, is the one that the headers
had, or the first that was added. -/
theorem first?_telling {α : Type} {key : String} {told? : Outcome → Option α}
    {bytes : α → ByteArray}
    (applied : ∀ (outcome : Outcome) (headers : Headers), (outcome.apply headers).first? key =
      (headers.first? key).or ((told? outcome).map bytes))
    (outcomes : List Outcome) (headers : Headers) :
    (headers.telling outcomes).first? key =
      (headers.first? key).or ((outcomes.findSome? told?).map bytes) := by
  induction outcomes generalizing headers with
  | nil => simp [telling]
  | cons outcome later inductionHypothesis =>
      have told : headers.telling (outcome :: later) = (outcome.apply headers).telling later := rfl
      rw [told, inductionHypothesis, applied, Option.or_assoc, List.findSome?_cons]
      cases told? outcome <;> rfl

end Headers

namespace Outcome

/-- Headers that told of nothing tell the first failure of several outcomes, or the first reference
if nothing failed. -/
theorem ofHeaders_telling {headers : Headers} (noClaim : headers.holdsClaim = false)
    (noFailure : headers.holdsFailure = false) (outcomes : List Outcome) :
    ofHeaders (headers.telling outcomes) = .ok (counting outcomes) := by
  have claim := Headers.first?_telling first?_claimKey_apply outcomes headers
  have failure := Headers.first?_telling first?_failureKey_apply outcomes headers
  rw [(headers.first?_eq_none_iff _).mpr noClaim, Option.none_or] at claim
  rw [(headers.first?_eq_none_iff _).mpr noFailure, Option.none_or] at failure
  rw [ofHeaders, failure, claim, counting]
  cases outcomes.findSome? description? with
  | some description => simp
  | none =>
      cases outcomes.findSome? reference? with
      | some reference => simp [Except.map]
      | none => rfl

/-- Headers tell nothing intelligible just if they hold no report and their first reference is no
reference. -/
theorem ofHeaders_eq_error_iff {headers : Headers} {fault : Fault} :
    ofHeaders headers = .error fault ↔ headers.holdsFailure = false ∧
      ∃ raw, headers.first? Headers.claimKey = some raw ∧ Reference.ofBytes raw = .error fault := by
  rw [Headers.holdsFailure, ← Headers.first?_eq_none_iff, ofHeaders]
  cases headers.first? Headers.failureKey with
  | some description => simp
  | none =>
      cases headers.first? Headers.claimKey with
      | none => simp
      | some raw => cases read : Reference.ofBytes raw <;> simp [read, Except.map]

theorem kind_of_ofHeaders {headers : Headers} {fault : Fault}
    (unread : ofHeaders headers = .error fault) : fault.kind = .contract := by
  obtain ⟨-, raw, -, refused⟩ := ofHeaders_eq_error_iff.mp unread
  rw [Reference.ofBytes] at refused
  split at refused <;> cases refused
  rfl

/-- Of several outcomes told in headers that held none, the first failure counts, or the first
reference if nothing failed, and each but that of a value that stays takes one header behind the
others.  Whatever headers hold, they tell no outcome exactly if no report stands there and the first
reference is no text, which breaks the contract. -/
theorem outcomes_told_in_turn (headers : Headers) :
    (headers.holdsClaim = false → headers.holdsFailure = false → ∀ outcomes : List Outcome,
      ofHeaders (headers.telling outcomes) = .ok (counting outcomes) ∧
      (headers.telling outcomes).entries = headers.entries ++ outcomes.filterMap header? ∧
      (headers.telling outcomes).size =
        headers.size + outcomes.countP (fun outcome => !outcome.isPassthrough)) ∧
    ((∃ fault, ofHeaders headers = .error fault) ↔ headers.holdsFailure = false ∧
      ∃ raw, headers.first? Headers.claimKey = some raw ∧ ¬ ∃ text : String, text.toUTF8 = raw) ∧
    ∀ fault, ofHeaders headers = .error fault → fault.kind = .contract := by
  refine ⟨fun noClaim noFailure outcomes => ?_, ?_, fun fault unread => kind_of_ofHeaders unread⟩
  · have entries := headers.entries_telling outcomes
    refine ⟨ofHeaders_telling noClaim noFailure outcomes, entries, ?_⟩
    rw [Headers.size, Headers.size, entries, List.length_append,
      List.length_filterMap_eq_countP]
    simp only [isSome_header?]
  · simp only [ofHeaders_eq_error_iff, ← Reference.ofBytes_eq_error_iff]
    constructor
    · rintro ⟨fault, noFailure, raw, first, refused⟩
      exact ⟨noFailure, raw, first, fault, refused⟩
    · rintro ⟨noFailure, raw, first, fault, refused⟩
      exact ⟨fault, noFailure, raw, first, refused⟩

/-- A failure counts that is told after a reference and before another one. -/
theorem outcomes_told_in_turn_failureBetween :
    let headers := Headers.empty.add "other" "x".toUTF8
    let outcomes : List Outcome :=
      [.externalized ⟨"memory://t/1"⟩, .passthrough, .failed "first",
        .externalized ⟨"memory://t/2"⟩, .failed "second"]
    headers.holdsClaim = false ∧ headers.holdsFailure = false ∧
      ofHeaders (headers.telling outcomes) = .ok (.failed "first") ∧
      (headers.telling outcomes).size = 5 := by
  intro headers outcomes
  have noClaim : headers.holdsClaim = false := by decide
  have noFailure : headers.holdsFailure = false := by decide
  obtain ⟨told, -, size⟩ := (outcomes_told_in_turn headers).1 noClaim noFailure outcomes
  exact ⟨noClaim, noFailure, told, size⟩

end Outcome

end PayloadDepot
