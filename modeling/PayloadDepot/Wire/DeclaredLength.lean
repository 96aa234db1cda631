import PayloadDepot.Bytes.SignedWord
import PayloadDepot.Fault
import PayloadDepot.Wire.Headers

/-!
# Reserved headers and declared lengths

Three header names are reserved: one holds the reference of a value that was
checked in, one the report of a check-in that failed, and one the length that a
sender declares for a streamed value.  A length is written as a signed word of
eight bytes, and the last one that was declared counts.
-/

namespace PayloadDepot

namespace Headers

/-- The name of the header that holds the reference of a value that was checked in. -/
def claimKey : String := "message-claim-check"

/-- The name of the header that holds the report of a check-in that failed. -/
def failureKey : String := "message-claim-check-error"

/-- The name of the header that holds the declared length of a streamed value. -/
def lengthKey : String := "message-claim-check-payload-size"

/-- Whether the headers hold the reference of a value that was checked in. -/
def holdsClaim (headers : Headers) : Bool :=
  headers.contains claimKey

/-- Whether the headers hold the report of a check-in that failed. -/
def holdsFailure (headers : Headers) : Bool :=
  headers.contains failureKey

/-- The headers with a declared length; it has to be less than 2^63. -/
def declareLength (headers : Headers) (length : Nat) : Except Fault Headers :=
  if length < 0x8000000000000000 then .ok (headers.add lengthKey (Bytes.wordBytes length))
  else .error (.contract (.lengthTooLarge length))

/-- The declared length, which the last header of that name holds. -/
def declaredLength (headers : Headers) : Except Fault Nat :=
  match headers.last? lengthKey with
  | none => .error (.contract (.lengthMissing lengthKey))
  | some raw =>
      match Bytes.signedWord? raw with
      | none => .error (.contract (.lengthWidth lengthKey raw.size))
      | some length =>
          if length < 0 then .error (.contract (.lengthNegative lengthKey length))
          else .ok length.toNat

end Headers

end PayloadDepot
