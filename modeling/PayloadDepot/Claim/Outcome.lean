import PayloadDepot.Claim.Reference
import PayloadDepot.Wire.DeclaredLength

/-!
# Outcomes of check-ins

What happened to a value before it was sent is told to the later stages through
the headers: nothing, when the value stays in the record, the reference of a
value that was checked in, or the report of a check-in that failed.  A report of
failure takes precedence over a reference.
-/

namespace PayloadDepot

/-- What happened to a value before it was sent. -/
inductive Outcome where
  | passthrough
  | externalized (reference : Reference)
  | failed (description : String)
deriving DecidableEq, Repr

namespace Outcome

/-- The outcome that the headers of a record tell. -/
def ofHeaders (headers : Headers) : Except Fault Outcome :=
  match headers.first? Headers.failureKey with
  | some description => .ok (.failed (Text.Utf8.decodeLenient description))
  | none =>
      match headers.first? Headers.claimKey with
      | none => .ok .passthrough
      | some reference => (Reference.ofBytes reference).map .externalized

/-- The headers of a record with an outcome told in them. -/
def apply (outcome : Outcome) (headers : Headers) : Headers :=
  match outcome with
  | passthrough => headers
  | externalized reference => headers.add Headers.claimKey reference.toBytes
  | failed description => headers.add Headers.failureKey description.toUTF8

def isPassthrough : Outcome → Bool
  | passthrough => true
  | _ => false

@[simp]
theorem apply_passthrough (headers : Headers) : passthrough.apply headers = headers := rfl

end Outcome

end PayloadDepot
