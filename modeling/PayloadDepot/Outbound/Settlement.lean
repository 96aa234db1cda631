import PayloadDepot.Claim.Outcome
import PayloadDepot.Fault.Report
import PayloadDepot.Outbound.Interceptor
import PayloadDepot.Setup.Plan
import PayloadDepot.Wire.Framing

/-!
# Deciding and settling check-ins

A value is checked in when the estimated size of its record exceeds a threshold.
However an attempt at it ends, the record goes on: unchanged if its value stays,
without its value and with a reference if the value was checked in, and with its
value and a report if the attempt failed.
-/

namespace PayloadDepot

/-- Whether a value is at hand as a whole or is read from a stream. -/
inductive Delivered where
  | whole
  | streamed
deriving DecidableEq, Repr

namespace Delivered

/-- What the journal calls a record whose value is delivered in this way. -/
def noun : Delivered → String
  | whole => "record"
  | streamed => "stream"

/-- What stands before the wordings of attempts at values that are streamed. -/
def lead : Delivered → String
  | whole => ""
  | streamed => "streaming "

end Delivered

/-- When a value is checked in: if the estimated size of its record is over a threshold. -/
structure CheckInPolicy where
  threshold : Nat := defaultThreshold
  estimator : SizeEstimator := Framing.estimate

namespace CheckInPolicy

variable {δ κ ν : Type}

/-- Whether a record is over the threshold, from its key and the length of its value. -/
def isOver (policy : CheckInPolicy) (delivered : Delivered) (record : ProducerRecord κ ν)
    (key : Option ByteArray) (length : Nat) : Effect δ Bool := do
  let timestamp ← record.timestampOrNow
  let estimate := policy.estimator key (some length) record.headers timestamp
  let (noun, topic, threshold) := (delivered.noun, record.topic, policy.threshold)
  if estimate ≤ threshold then
    World.log .trace
      s!"{noun} under threshold: topic={topic}, estimate={estimate}, threshold={threshold}"
    return false
  else return true

end CheckInPolicy

namespace ProducerRecord

variable {δ κ ν : Type}

/-- The record with an outcome told in its headers; a value that was checked in is left out. -/
def withOutcome (record : ProducerRecord κ ν) (outcome : Outcome) : ProducerRecord κ ν :=
  let value :=
    match outcome with
    | .externalized _ => none
    | _ => record.value
  record.replaceValue value (outcome.apply record.headers)

/-- What a report says was attempted. -/
def attempted (record : ProducerRecord κ ν) (delivered : Delivered) : String :=
  delivered.lead ++ "check-in failed for topic " ++ record.topic

/-- The record that goes on after an attempt to check its value in; no reference means that the
value stays. -/
def settle (record : ProducerRecord κ ν) (delivered : Delivered)
    (attempt : Action δ (Option Reference)) : Effect δ (ProducerRecord κ ν) := do
  match ← Action.attempt attempt with
  | .ok none => return record
  | .ok (some reference) => return record.withOutcome (.externalized reference)
  | .error fault =>
      let (lead, topic, error) := (delivered.lead, record.topic, fault.message)
      World.log .error
        s!"{lead}claim check failed, sending error header: topic={topic}, error={error}"
      return record.withOutcome (.failed (fault.report (record.attempted delivered)))

end ProducerRecord

end PayloadDepot
