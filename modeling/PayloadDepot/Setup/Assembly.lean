import PayloadDepot.Inbound.Restoring
import PayloadDepot.Outbound.CheckIn
import PayloadDepot.Outbound.Sealing
import PayloadDepot.Outbound.StreamCheckIn
import PayloadDepot.Storage.Catalog

/-!
# Assembling stages from plans

A plan names the codecs and the kind of depot that a stage is made of.  What the
plan has to say for a stage is checked first, then its depot is made, and then
its codecs are looked up.  A stage that checks values in is refused unless the
plan also uses the sealing serializer, since nobody would learn of its failures.
-/

namespace PayloadDepot

namespace Plan

/-- Checks that a plan uses the sealing serializer for values, on behalf of a component. -/
def requireSealing (plan : Plan) (component : String) : Except Fault Unit :=
  if plan.valueSerializer = some Keys.claimCheckCodec then .ok ()
  else .error (.config (.unsealed component))

def policy (plan : Plan) : CheckInPolicy :=
  { threshold := plan.threshold }

end Plan

variable {δ κ ν : Type}

/-- The stage that checks values in, of the codecs and the depot that a plan names. -/
def CheckIn.ofPlan (plan : Plan) (keys : CodecSet δ κ) (values : CodecSet δ ν)
    (catalog : DepotCatalog δ) : Action δ (CheckIn δ κ ν) := do
  Action.ofExcept (plan.requireSealing "ClaimCheckProducerInterceptor")
  let keyId ← Action.ofExcept (Plan.requireCodec plan.keySerializer Keys.keySerializer)
  let valueId ← Action.ofExcept
    (Plan.requireCodec plan.wrappedValueSerializer Keys.wrappedValueSerializer)
  let depot ← catalog.create plan
  let keySerializer ← Action.ofExcept (keys.serializer keyId)
  let valueSerializer ← Action.ofExcept (values.serializer valueId)
  return {
    depot := depot
    keySerializer := keySerializer
    valueSerializer := valueSerializer
    policy := plan.policy }

/-- The stage that checks streams in, of the codec and the depot that a plan names. -/
def StreamCheckIn.ofPlan (plan : Plan) (keys : CodecSet δ κ) (catalog : DepotCatalog δ) :
    Action δ (StreamCheckIn δ κ) := do
  Action.ofExcept (plan.requireSealing "ClaimCheckStreamingProducerInterceptor")
  let keyId ← Action.ofExcept (Plan.requireCodec plan.keySerializer Keys.keySerializer)
  let depot ← catalog.create plan
  let keySerializer ← Action.ofExcept (keys.serializer keyId)
  return { depot := depot, keySerializer := keySerializer, policy := plan.policy }

/-- The sealing serializer around the one that a plan names, which must not be itself. -/
def Serializer.sealingOfPlan (plan : Plan) (values : CodecSet δ ν) :
    Except Fault (Serializer δ ν) := do
  let id ← Plan.requireCodec plan.wrappedValueSerializer Keys.wrappedValueSerializer
  if id = Keys.claimCheckCodec then .error (.config .wrapsItself)
  else (values.serializer id).map .sealing

/-- The restoring deserializer around the one that a plan names. -/
def Deserializer.restoringOfPlan (plan : Plan) (values : CodecSet δ ν)
    (catalog : DepotCatalog δ) : Action δ (Deserializer δ ν) := do
  let id ← Action.ofExcept
    (Plan.requireCodec plan.wrappedValueDeserializer Keys.wrappedValueDeserializer)
  let depot ← catalog.create plan
  let wrapped ← Action.ofExcept (values.deserializer id)
  return .restoring depot wrapped

/-- The restoring deserializer for streams over the depot that a plan names. -/
def Deserializer.restoringStreamOfPlan (plan : Plan) (catalog : DepotCatalog δ) :
    Action δ (Deserializer δ StreamHandle) := do
  let depot ← catalog.create plan
  return .restoringStream depot

/-- The interceptor that restores values with the deserializer that a plan names for values.  That
one must not restore them itself, since they would be checked out twice. -/
def ReceiveInterceptor.restoringOfPlan (plan : Plan) (values : CodecSet δ ν)
    (catalog : DepotCatalog δ) : Action δ (ReceiveInterceptor δ κ ν) := do
  let id ← Action.ofExcept (Plan.requireCodec plan.valueDeserializer Keys.valueDeserializer)
  if id = Keys.claimCheckCodec then Action.fail (.config .restoredTwice)
  let depot ← catalog.create plan
  let deserializer ← Action.ofExcept (values.deserializer id)
  return .restoring depot deserializer

end PayloadDepot
