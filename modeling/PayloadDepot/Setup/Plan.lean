import PayloadDepot.Setup.Options

/-!
# Plans

A plan is what the options say about claim checks, read once and checked: the
threshold, the kind of depot, whether containers are created, and the
identifiers of the codecs.  The options themselves stay at hand for what only
one kind of depot needs.
-/

namespace PayloadDepot

/-- The greatest estimated size of a record whose value stays in the record, unless it is set:
a mebibyte less a margin for the framing. -/
def defaultThreshold : Nat := 1048576 - 512

/-- What the options say about claim checks. -/
structure Plan where
  threshold : Nat := defaultThreshold
  depot : Option DepotKind := none
  createsContainers : Bool := false
  keySerializer : Option String := none
  valueSerializer : Option String := none
  wrappedValueSerializer : Option String := none
  keyDeserializer : Option String := none
  valueDeserializer : Option String := none
  wrappedValueDeserializer : Option String := none
  options : Options := .empty

namespace Plan

def depotOf (options : Options) : Except Fault (Option DepotKind) :=
  match options.get? Keys.depot with
  | none => .ok none
  | some raw => (DepotKind.parse raw).map some

def ofOptions (options : Options) : Except Fault Plan := do
  let threshold ← options.unsigned? Keys.threshold
  let depot ← depotOf options
  let createsContainers ← options.boolean? Keys.createContainers
  return {
    threshold := threshold.getD defaultThreshold
    depot := depot
    createsContainers := createsContainers.getD false
    keySerializer := options.get? Keys.keySerializer
    valueSerializer := options.get? Keys.valueSerializer
    wrappedValueSerializer := options.get? Keys.wrappedValueSerializer
    keyDeserializer := options.get? Keys.keyDeserializer
    valueDeserializer := options.get? Keys.valueDeserializer
    wrappedValueDeserializer := options.get? Keys.wrappedValueDeserializer
    options := options }

def withOption (plan : Plan) (key value : String) : Plan :=
  { plan with options := plan.options.insert key value }

/-- The kind of depot, which has to be chosen. -/
def requireDepot (plan : Plan) : Except Fault DepotKind :=
  match plan.depot with
  | some kind => .ok kind
  | none => .error (.config (.missing Keys.depot))

/-- The identifier of a codec, which has to be chosen under its key. -/
def requireCodec (id : Option String) (key : String) : Except Fault String :=
  match id with
  | some chosen => .ok chosen
  | none => .error (.config (.missing key))

end Plan

end PayloadDepot
