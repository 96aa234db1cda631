import PayloadDepot.Host.World
import PayloadDepot.Wire.Batch

/-!
# Receive interceptors

A receive interceptor sees every batch after it was decoded and may put another
one in its place.  If it fails, the batch is not delivered.
-/

namespace PayloadDepot

/-- A stage that batches pass after they were decoded. -/
structure ReceiveInterceptor (δ κ ν : Type) where
  onReceive : Batch κ ν → Action δ (Batch κ ν)
  close : Effect δ Unit := pure ()

end PayloadDepot
