import PayloadDepot.Wire.Record

/-!
# Batches of received records

The records of a batch keep the order in which they were received.  Grouped by
topic and partition, the groups are in ascending order, and inside a group the
records keep their order.
-/

namespace PayloadDepot

structure TopicPartition where
  topic : String
  partition : Int
deriving DecidableEq, Repr

namespace TopicPartition

/-- Partitions are in the order of their topics' code points, and then of their numbers. -/
def precedes (left right : TopicPartition) : Bool :=
  left.topic < right.topic || (left.topic = right.topic && left.partition < right.partition)

end TopicPartition

/-- The partition that a record was received from. -/
def ConsumerRecord.topicPartition {κ ν : Type} (record : ConsumerRecord κ ν) : TopicPartition :=
  ⟨record.topic, record.partition⟩

/-- Received records, in the order in which they were received. -/
structure Batch (κ ν : Type) where
  records : List (ConsumerRecord κ ν) := []
deriving DecidableEq

namespace Batch

variable {κ ν : Type}

/-- Groups in ascending order. -/
abbrev Groups (κ ν : Type) := List (TopicPartition × List (ConsumerRecord κ ν))

/-- Groups with a record put at the end of its own one. -/
def putInGroup (record : ConsumerRecord κ ν) : Groups κ ν → Groups κ ν
  | [] => [(record.topicPartition, [record])]
  | (place, members) :: later =>
      if record.topicPartition = place then (place, members ++ [record]) :: later
      else if record.topicPartition.precedes place then
        (record.topicPartition, [record]) :: (place, members) :: later
      else (place, members) :: putInGroup record later

def byPartition (batch : Batch κ ν) : Groups κ ν :=
  batch.records.foldl (fun groups record => putInGroup record groups) []

end Batch

end PayloadDepot
