import PayloadDepot.Proofs.Effect
import PayloadDepot.Proofs.Text.Parts
import PayloadDepot.Storage.Bucket.Secret

/-!
# Texts that describe a secret

A text describes where a secret comes from by a word, a colon and a rest that is
not empty.  The rest begins behind the first colon and is taken as it is, so a
secret that is given as it is, is resolved to itself, letter by letter.
-/

namespace PayloadDepot

namespace SecretSource

/-- What a source is called in the texts that describe it. -/
def word : SecretSource → String
  | value _ => "value"
  | variableNamed _ => "env"
  | file _ => "path"

/-- What a text that describes a source has behind the colon. -/
def content : SecretSource → String
  | value secret => secret
  | variableNamed name => name
  | file path => path

/-- A text describes a source: the word for it, a colon, and a rest that is not empty. -/
def Describes (text : String) (source : SecretSource) : Prop :=
  text = source.word ++ ":" ++ source.content ∧ source.content ≠ ""

theorem colon_notMem_word (source : SecretSource) : ':' ∉ source.word.toList := by
  cases source <;> simp [word]

theorem describes_iff {text : String} {source : SecretSource} :
    Describes text source ↔
      Text.splitAtFirst? ':' text.toList = some (source.word.toList, source.content.toList) ∧
        source.content.toList ≠ [] := by
  rw [Text.splitAtFirst?_eq_some_iff, and_iff_left source.colon_notMem_word, Describes,
    ← String.toList_inj]
  simp

theorem parse_eq_ok_iff {text : String} {source : SecretSource} :
    parse text = .ok source ↔ Describes text source := by
  rw [describes_iff, parse]
  cases Text.splitAtFirst? ':' text.toList with
  | none => simp
  | some parts =>
      obtain ⟨kind, rest⟩ := parts
      obtain ⟨kind, rfl⟩ : ∃ text : String, text.toList = kind := ⟨_, String.toList_ofList⟩
      obtain ⟨rest, rfl⟩ : ∃ text : String, text.toList = rest := ⟨_, String.toList_ofList⟩
      simp only [String.ofList_toList, String.toList_inj, Option.some.injEq, Prod.mk.injEq,
        List.isEmpty_iff, String.toList_eq_nil_iff, ne_eq]
      split
      · next empty =>
        simp only [reduceCtorEq, false_iff]
        exact fun ⟨same, filled⟩ => filled (same.2 ▸ empty)
      · next filled =>
        rw [and_iff_left_of_imp fun same => same.2 ▸ filled]
        split
        · next named => cases source <;> simp [named, word, content]
        · next notValue =>
          split
          · next named => cases source <;> simp [named, word, content]
          · next notVariable =>
            split
            · next named => cases source <;> simp [named, word, content]
            · next notFile => cases source <;> simp [notValue, notVariable, notFile, word]

/-- A text is read as the source that it describes, or one fault is told, whatever the text is. -/
theorem parse_cases (text : String) :
    (∃ source, parse text = .ok source) ∨ parse text = .error (.config .secretSource) := by
  rw [parse]
  split
  · exact .inr rfl
  · split
    · exact .inr rfl
    · split
      · exact .inl ⟨_, rfl⟩
      · split
        · exact .inl ⟨_, rfl⟩
        · split
          · exact .inl ⟨_, rfl⟩
          · exact .inr rfl

theorem parse_eq_error_iff {text : String} {fault : Fault} :
    parse text = .error fault ↔
      (∀ source, ¬ Describes text source) ∧ fault = .config .secretSource := by
  simp only [← parse_eq_ok_iff]
  rcases parse_cases text with ⟨source, read⟩ | refused
  · simp [read]
  · simp [refused, eq_comm]

theorem parse_of_not_describes {text : String} (lacks : ∀ source, ¬ Describes text source) :
    parse text = .error (.config .secretSource) :=
  parse_eq_error_iff.mpr ⟨lacks, rfl⟩

theorem on_resolve_value {δ : Type} (secret : String) (world : World δ) :
    (value secret).resolve.on world = (.ok secret, world) := rfl

end SecretSource

end PayloadDepot
