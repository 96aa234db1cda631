import PayloadDepot.Proofs.Bytes.TwosComplement

/-!
# Lengths that are declared and read

A length below 2^63 is declared by one more header, which holds it in two's
complement, and is read again whatever lengths were declared before.  A greater
one is refused and leaves the headers as they are.  The other way round, a length
is read exactly where the last header of its name is the one that declaring this
length would add; all else that may stand there breaks the contract.
-/

namespace PayloadDepot

namespace Headers

/-- Declares a length in headers that are changed in place. -/
def declaring (length : Nat) : ExceptT Fault (StateM Headers) Unit := do
  set (← liftM ((← get).declareLength length))

theorem run_declaring (length : Nat) (headers : Headers) :
    (declaring length).run headers =
      match headers.declareLength length with
      | .ok declared => (.ok (), declared)
      | .error fault => (.error fault, headers) := by
  change (ExceptT.run (liftM (headers.declareLength length) >>= set) :
    StateM Headers (Except Fault Unit)) headers = _
  cases headers.declareLength length <;> rfl

theorem run_declaring_of_lt {length : Nat} (small : length < 2 ^ 63) (headers : Headers) :
    (declaring length).run headers =
      (.ok (), headers.add lengthKey (Bytes.wordBytes length)) := by
  have declared : headers.declareLength length =
      .ok (headers.add lengthKey (Bytes.wordBytes length)) := if_pos small
  rw [run_declaring, declared]

theorem run_declaring_of_le {length : Nat} (large : 2 ^ 63 ≤ length) (headers : Headers) :
    (declaring length).run headers =
      (.error (.contract (.lengthTooLarge length)), headers) := by
  have refused : headers.declareLength length =
      .error (.contract (.lengthTooLarge length)) := if_neg (Nat.not_lt.mpr large)
  rw [run_declaring, refused]

theorem declaredLength_eq_ok_iff_holds {headers : Headers} {length : Nat} :
    headers.declaredLength = .ok length ↔
      ∃ raw, headers.last? lengthKey = some raw ∧ Bytes.Holds raw length := by
  rw [declaredLength]
  cases headers.last? lengthKey with
  | none => simp
  | some raw =>
      simp only [Option.some.injEq, exists_eq_left', ← Bytes.signedWord?_eq_some_iff]
      cases Bytes.signedWord? raw with
      | none => simp
      | some word =>
          dsimp only
          split <;> simp <;> omega

/-- What a length is read from is what declaring it would add. -/
theorem holds_iff_declaring {headers : Headers} {raw : ByteArray} {length : Nat} :
    Bytes.Holds raw length ↔
      (declaring length).run headers = (.ok (), headers.add lengthKey raw) := by
  constructor
  · intro holds
    have small : length < 2 ^ 63 := by exact_mod_cast holds.bound
    rw [run_declaring_of_lt small, holds.unique (Bytes.holds_wordBytes small)]
  · intro declared
    rcases Nat.lt_or_ge length (2 ^ 63) with small | large
    · rw [run_declaring_of_lt small] at declared
      have last : (headers.add lengthKey (Bytes.wordBytes length)).last? lengthKey =
          (headers.add lengthKey raw).last? lengthKey :=
        congrArg (fun ran => ran.2.last? lengthKey) declared
      simp only [last?_eq_getLast?, values_add_self, List.getLast?_concat] at last
      exact Option.some.inj last ▸ Bytes.holds_wordBytes small
    · rw [run_declaring_of_le large] at declared
      cases declared

/-- Declaring a length and reading it are inverse to each other, in whatever headers. -/
theorem declared_length_returns (headers : Headers) :
    (∀ length : Nat, length < 2 ^ 63 → ∃ raw, Bytes.Holds raw length ∧
      (declaring length).run headers = (.ok (), headers.add lengthKey raw) ∧
      (headers.add lengthKey raw).declaredLength = .ok length) ∧
    (∀ length : Nat, 2 ^ 63 ≤ length →
      (declaring length).run headers = (.error (.contract (.lengthTooLarge length)), headers)) ∧
    (∀ length : Nat, headers.declaredLength = .ok length ↔
      ∃ raw, headers.last? lengthKey = some raw ∧ Bytes.Holds raw length) ∧
    (∀ length : Nat, headers.declaredLength = .ok length ↔
      ∃ raw, headers.last? lengthKey = some raw ∧
        (declaring length).run headers = (.ok (), headers.add lengthKey raw)) ∧
    ∀ fault, headers.declaredLength = .error fault → fault.kind = .contract := by
  refine ⟨fun length small => ?_, fun length large => run_declaring_of_le large headers,
    fun length => declaredLength_eq_ok_iff_holds, fun length => ?_, fun fault refused => ?_⟩
  · have holds := Bytes.holds_wordBytes small
    refine ⟨Bytes.wordBytes length, holds, run_declaring_of_lt small headers, ?_⟩
    exact declaredLength_eq_ok_iff_holds.mpr ⟨_, by simp [last?_eq_getLast?], holds⟩
  · rw [declaredLength_eq_ok_iff_holds]
    exact exists_congr fun raw => and_congr_right fun _ => holds_iff_declaring
  · obtain ⟨breach, rfl⟩ := exists_breach refused
    rfl

/-- Behind a header of two bytes, which declares nothing, 258 is declared and read. -/
theorem declared_length_returns_258 :
    let headers := Headers.empty.add lengthKey ⟨#[1, 2]⟩
    let declared := headers.add lengthKey ⟨#[0, 0, 0, 0, 0, 0, 1, 2]⟩
    258 < 2 ^ 63 ∧ (declaring 258).run headers = (.ok (), declared) ∧
      declared.declaredLength = .ok 258 ∧
      headers.declaredLength = .error (.contract (.lengthWidth lengthKey 2)) := by
  intro headers declared
  have small : 258 < 2 ^ 63 := by decide
  obtain ⟨raw, holds, ran, read⟩ := (declared_length_returns headers).1 258 small
  obtain rfl : raw = ⟨#[0, 0, 0, 0, 0, 0, 1, 2]⟩ := holds.unique (Bytes.holds_wordBytes small)
  exact ⟨small, ran, read, rfl⟩

end Headers

end PayloadDepot
