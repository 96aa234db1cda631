import PayloadDepot.Inbound.Consumer
import PayloadDepot.Outbound.Producer
import PayloadDepot.Rehearsal.State

/-!
# The bench of a rehearsal

On the bench lie the components that were set up so far, each under its name,
and the records that were kept for later.  A name that is used again stands for
the newer component.
-/

namespace PayloadDepot

/-- A record as it was stored, and whether its timestamp was the time of sending. -/
structure KeptRecord where
  wire : WireRecord
  isStamped : Bool := false

/-- What was set up so far, by name. -/
structure Bench (κ ν : Type) where
  depots : Table String (Depot RehearsalState) := .empty
  memories : Table String (Cell RehearsalState MemoryDepot) := .empty
  rehearsals : Table String (Cell RehearsalState RehearsalDepot) := .empty
  producers : Table String (Producer RehearsalState κ ν) := .empty
  consumers : Table String (Consumer RehearsalState κ ν) := .empty
  records : Table String KeptRecord := .empty
  catalog : DepotCatalog RehearsalState := .watched false

namespace Bench

variable {κ ν : Type}

def withDepot (name : String) (depot : Depot RehearsalState) (bench : Bench κ ν) : Bench κ ν :=
  { bench with depots := bench.depots.insert name (depot.watched name) }

def withMemory (name : String) (place : Cell RehearsalState MemoryDepot) (bench : Bench κ ν) :
    Bench κ ν :=
  { bench.withDepot name (MemoryDepot.depot place) with
    memories := bench.memories.insert name place }

def withRehearsal (name : String) (place : Cell RehearsalState RehearsalDepot)
    (bench : Bench κ ν) : Bench κ ν :=
  { bench.withDepot name (RehearsalDepot.depot place) with
    rehearsals := bench.rehearsals.insert name place }

def withProducer (name : String) (producer : Producer RehearsalState κ ν) (bench : Bench κ ν) :
    Bench κ ν :=
  { bench with producers := bench.producers.insert name producer }

def withConsumer (name : String) (consumer : Consumer RehearsalState κ ν) (bench : Bench κ ν) :
    Bench κ ν :=
  { bench with consumers := bench.consumers.insert name consumer }

def withRecord (name : String) (record : KeptRecord) (bench : Bench κ ν) : Bench κ ν :=
  { bench with records := bench.records.insert name record }

end Bench

end PayloadDepot
