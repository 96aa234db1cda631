import PayloadDepot.Storage.Depot

/-!
# Depots for rehearsals

A stand-in for a depot: the references are the numbers of the payloads in the
order in which they were checked in, and every call is refused while it is told
to refuse.  It takes streams that end early as they are.
-/

namespace PayloadDepot

/-- The payloads of a depot for rehearsals, and the fault with which it refuses calls. -/
structure RehearsalDepot where
  payloads : Array ByteArray := #[]
  refusal : Option Fault := none

namespace RehearsalDepot

variable {δ : Type}

def ensureWilling (place : Cell δ RehearsalDepot) : Action δ Unit := do
  match (← Action.lift place.load).refusal with
  | some fault => Action.fail fault
  | none => return ()

def keep (place : Cell δ RehearsalDepot) (payload : ByteArray) : Effect δ Reference :=
  place.updateGet fun depot =>
    (⟨toString (depot.payloads.size + 1)⟩,
      { depot with payloads := depot.payloads.push payload })

def payload? (depot : RehearsalDepot) (reference : Reference) : Option ByteArray :=
  ((List.range depot.payloads.size).find?
    (fun index => toString (index + 1) = reference.text)).bind (depot.payloads[·]?)

def checkOut (place : Cell δ RehearsalDepot) (reference : Reference) : Action δ ByteArray := do
  ensureWilling place
  match (← Action.lift place.load).payload? reference with
  | some payload => return payload
  | none => Action.fail (.badReference reference.text)

/-- The depot that keeps its payloads in a place. -/
def depot (place : Cell δ RehearsalDepot) : Depot δ where
  name := "fake"
  checkIn _ payload := do
    ensureWilling place
    Action.lift (keep place payload)
  checkInStream _ source length := do
    ensureWilling place
    match ← Action.lift (source.take length) with
    | .ok payload => Action.lift (keep place payload)
    | .error fault => Action.fail (.io fault)
  checkOut := checkOut place
  checkOutStream reference := do
    let payload ← checkOut place reference
    Action.lift (StreamHandle.ofBytes payload)
  close := pure ()

end RehearsalDepot

end PayloadDepot
