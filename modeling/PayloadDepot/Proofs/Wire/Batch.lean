import Mathlib.Data.List.Induction
import Mathlib.Data.List.Perm.Basic
import Mathlib.Data.Prod.Lex
import PayloadDepot.Proofs.Text.Utf8Order
import PayloadDepot.Wire.Batch

/-!
# Records grouped by partition

Putting a record into its group appends it to what was there and leaves every
other group as it is, and the groups stay in ascending order.  So each partition
of a batch has one group, which consists of its records in the order in which
they were received.
-/

namespace PayloadDepot

namespace TopicPartition

variable {left middle right : TopicPartition}

/-- Partitions are in the order of the bytes of their topics, and then of their numbers. -/
def Before (left right : TopicPartition) : Prop :=
  left.topic.toUTF8.data.toList < right.topic.toUTF8.data.toList ∨
    left.topic = right.topic ∧ left.partition < right.partition

/-- The topic and then the number of a partition, in lexicographic order. -/
def rank (place : TopicPartition) : String ×ₗ Int :=
  toLex (place.topic, place.partition)

theorem before_iff_rank_lt : left.Before right ↔ left.rank < right.rank := by
  rw [Before, Text.Utf8.toUTF8_lt_iff, rank, rank, Prod.Lex.toLex_lt_toLex]

theorem rank_inj : left.rank = right.rank ↔ left = right := by
  obtain ⟨topic, number⟩ := left
  obtain ⟨topicOther, numberOther⟩ := right
  rw [rank, rank, toLex_inj, Prod.mk.injEq, mk.injEq]

theorem precedes_iff : left.precedes right = true ↔ left.Before right := by
  simp only [precedes, Bool.or_eq_true, Bool.and_eq_true, decide_eq_true_eq, Before,
    Text.Utf8.toUTF8_lt_iff]

theorem not_before_self (place : TopicPartition) : ¬ place.Before place := by
  rw [before_iff_rank_lt]
  exact lt_irrefl _

theorem Before.ne (before : left.Before right) : left ≠ right := by
  rintro rfl
  exact not_before_self _ before

theorem Before.trans (before : left.Before middle) (later : middle.Before right) :
    left.Before right := by
  rw [before_iff_rank_lt] at *
  exact lt_trans before later

theorem Before.asymm (before : left.Before right) : ¬ right.Before left :=
  fun after => not_before_self _ (before.trans after)

theorem before_of_not_before (different : left ≠ right) (after : ¬ left.Before right) :
    right.Before left := by
  rw [before_iff_rank_lt] at *
  exact lt_of_le_of_ne (not_lt.mp after) fun same => different (rank_inj.mp same).symm

end TopicPartition

namespace Batch

open TopicPartition (Before)

variable {κ ν : Type}

/-- Groups stand in the order of their partitions, each of which has one. -/
def Ascending (groups : Groups κ ν) : Prop :=
  (groups.map Prod.fst).Pairwise Before

section Putting

variable {groups : Groups κ ν} (record : ConsumerRecord κ ν)

theorem mem_keys_putInGroup {place : TopicPartition} :
    place ∈ (putInGroup record groups).map Prod.fst ↔
      place = record.topicPartition ∨ place ∈ groups.map Prod.fst := by
  induction groups with
  | nil => simp [putInGroup]
  | cons group later inductionHypothesis =>
      obtain ⟨first, members⟩ := group
      rw [putInGroup]
      split
      · next same => simp [same]
      · split
        · simp
        · rw [List.map_cons, List.mem_cons, inductionHypothesis, List.map_cons, List.mem_cons]
          tauto

theorem Ascending.before {first : TopicPartition} {members : List (ConsumerRecord κ ν)}
    {later : Groups κ ν} (ascending : Ascending ((first, members) :: later))
    {place : TopicPartition} (before : place.Before first) :
    ∀ other ∈ ((first, members) :: later).map Prod.fst, place.Before other := by
  intro other given
  rcases List.mem_cons.mp given with rfl | given
  · exact before
  · exact before.trans ((List.pairwise_cons.mp ascending).1 other given)

theorem ascending_putInGroup (ascending : Ascending groups) :
    Ascending (putInGroup record groups) := by
  induction groups with
  | nil => exact List.pairwise_singleton _ _
  | cons group later inductionHypothesis =>
      obtain ⟨first, members⟩ := group
      obtain ⟨least, ascendingLater⟩ := List.pairwise_cons.mp ascending
      rw [putInGroup]
      split
      · exact ascending
      · next different =>
        split
        · next precedes =>
          have before := TopicPartition.precedes_iff.mp precedes
          exact List.pairwise_cons.mpr ⟨ascending.before before, ascending⟩
        · next precedes =>
          have before := TopicPartition.before_of_not_before different
            (mt TopicPartition.precedes_iff.mpr precedes)
          refine List.pairwise_cons.mpr ⟨fun place given => ?_, inductionHypothesis ascendingLater⟩
          rcases (mem_keys_putInGroup record).mp given with rfl | given
          · exact before
          · exact least place given

theorem lookup_eq_none_of_before {place : TopicPartition}
    (before : ∀ other ∈ groups.map Prod.fst, place.Before other) : groups.lookup place = none := by
  rw [List.lookup_eq_none_iff]
  intro group given
  exact bne_iff_ne.mpr (before _ (List.mem_map_of_mem given)).ne

theorem lookup_putInGroup (ascending : Ascending groups) (place : TopicPartition) :
    (putInGroup record groups).lookup place =
      if place = record.topicPartition then some ((groups.lookup place).getD [] ++ [record])
      else groups.lookup place := by
  induction groups with
  | nil =>
      rw [putInGroup, List.lookup_cons]
      by_cases own : place = record.topicPartition
      · simp [own]
      · simp [own, beq_false_of_ne own]
  | cons group later inductionHypothesis =>
      obtain ⟨first, members⟩ := group
      have ascendingLater : Ascending later := (List.pairwise_cons.mp ascending).2
      rw [putInGroup]
      split
      · next same =>
        subst same
        rw [List.lookup_cons, List.lookup_cons]
        by_cases own : place = record.topicPartition
        · simp [own]
        · simp [own, beq_false_of_ne own]
      · next different =>
        split
        · next precedes =>
          -- The record comes before all groups, so there was none for it.
          have absent := lookup_eq_none_of_before
            (ascending.before (TopicPartition.precedes_iff.mp precedes))
          by_cases own : place = record.topicPartition
          · rw [own, absent, List.lookup_cons]
            simp
          · rw [List.lookup_cons, beq_false_of_ne own, if_neg own]
        · rw [List.lookup_cons, List.lookup_cons, inductionHypothesis ascendingLater]
          by_cases head : place = first
          · simp [head, Ne.symm different]
          · simp [beq_false_of_ne head]

theorem flatMap_putInGroup_perm :
    ((putInGroup record groups).flatMap Prod.snd).Perm (groups.flatMap Prod.snd ++ [record]) := by
  induction groups with
  | nil => exact .refl _
  | cons group later inductionHypothesis =>
      obtain ⟨first, members⟩ := group
      rw [putInGroup]
      split
      · simp only [List.flatMap_cons, List.append_assoc]
        exact List.perm_append_comm.append_left members
      · split
        · simp only [List.flatMap_cons]
          exact List.perm_append_comm
        · simp only [List.flatMap_cons, List.append_assoc]
          exact inductionHypothesis.append_left members

end Putting

section Grouping

theorem byPartition_concat (records : List (ConsumerRecord κ ν)) (record : ConsumerRecord κ ν) :
    byPartition ⟨records ++ [record]⟩ = putInGroup record (byPartition ⟨records⟩) :=
  List.foldl_concat ..

/-- The records of a batch that were received from one partition, in their order. -/
def own (batch : Batch κ ν) (place : TopicPartition) : List (ConsumerRecord κ ν) :=
  batch.records.filter (·.topicPartition = place)

theorem own_concat (records : List (ConsumerRecord κ ν)) (record : ConsumerRecord κ ν)
    (place : TopicPartition) : own ⟨records ++ [record]⟩ place =
      own ⟨records⟩ place ++ if record.topicPartition = place then [record] else [] := by
  rw [own, own, List.filter_append, List.filter_singleton, Bool.cond_decide]

theorem ascending_byPartition (batch : Batch κ ν) : Ascending batch.byPartition := by
  obtain ⟨records⟩ := batch
  induction records using List.reverseRecOn with
  | nil => exact .nil
  | append_singleton earlier last inductionHypothesis =>
      rw [byPartition_concat]
      exact ascending_putInGroup last inductionHypothesis

theorem lookup_byPartition (batch : Batch κ ν) (place : TopicPartition) :
    batch.byPartition.lookup place =
      if batch.own place = [] then none else some (batch.own place) := by
  obtain ⟨records⟩ := batch
  induction records using List.reverseRecOn with
  | nil => rfl
  | append_singleton earlier last inductionHypothesis =>
      rw [byPartition_concat, lookup_putInGroup last (ascending_byPartition _),
        inductionHypothesis, own_concat]
      by_cases same : place = last.topicPartition
      · rw [if_pos same, if_pos same.symm]
        by_cases none : own ⟨earlier⟩ place = []
        · simp [none]
        · simp [none]
      · rw [if_neg same, if_neg (Ne.symm same), List.append_nil]

theorem flatMap_byPartition_perm (batch : Batch κ ν) :
    (batch.byPartition.flatMap Prod.snd).Perm batch.records := by
  obtain ⟨records⟩ := batch
  induction records using List.reverseRecOn with
  | nil => exact .refl _
  | append_singleton earlier last inductionHypothesis =>
      rw [byPartition_concat]
      exact (flatMap_putInGroup_perm last).trans (inductionHypothesis.append_right [last])

theorem own_ne_nil_iff {batch : Batch κ ν} {place : TopicPartition} :
    batch.own place ≠ [] ↔ ∃ record ∈ batch.records, record.topicPartition = place := by
  simp only [own, ne_eq, List.filter_eq_nil_iff, decide_eq_true_eq, not_forall, not_not,
    exists_prop]

theorem mem_iff_lookup {groups : Groups κ ν} (ascending : Ascending groups)
    {place : TopicPartition} {members : List (ConsumerRecord κ ν)} :
    (place, members) ∈ groups ↔ groups.lookup place = some members := by
  rw [List.lookup_eq_some_iff]
  constructor
  · intro given
    obtain ⟨earlier, later, rfl⟩ := List.append_of_mem given
    refine ⟨earlier, later, rfl, fun group among => bne_iff_ne.mpr (Ne.symm ?_)⟩
    rw [Ascending, List.map_append, List.pairwise_append] at ascending
    exact (ascending.2.2 _ (List.mem_map_of_mem among) _ List.mem_cons_self).ne
  · rintro ⟨earlier, later, rfl, -⟩
    exact List.mem_append_cons_self

theorem mem_byPartition_iff {batch : Batch κ ν} {place : TopicPartition}
    {members : List (ConsumerRecord κ ν)} : (place, members) ∈ batch.byPartition ↔
      members ≠ [] ∧ members = batch.own place := by
  rw [mem_iff_lookup (ascending_byPartition batch), lookup_byPartition]
  by_cases none : batch.own place = []
  · rw [if_pos none, none]
    simp
  · rw [if_neg none, Option.some.injEq, eq_comm]
    exact ⟨fun same => ⟨same ▸ none, same⟩, And.right⟩

theorem Ascending.eq_of_mem_iff {groups others : Groups κ ν} (ascending : Ascending groups)
    (ascendingOthers : Ascending others) (same : ∀ group, group ∈ groups ↔ group ∈ others) :
    groups = others := by
  have apart := List.pairwise_map.mp ascending
  have apartOthers := List.pairwise_map.mp ascendingOthers
  have nodup := apart.imp fun before => mt (congrArg Prod.fst) before.ne
  have nodupOthers := apartOthers.imp fun before => mt (congrArg Prod.fst) before.ne
  exact List.Perm.eq_of_pairwise (fun _ _ _ _ before after => absurd after before.asymm) apart
    apartOthers ((List.perm_ext_iff_of_nodup nodup nodupOthers).mpr same)

/-- Grouping a batch splits it stably.  There is one group for each partition that occurs, in the
order of the bytes of topics and then of numbers; each is filled, and consists of the records of
its partition in the order in which they were received.  Put one behind the other, the groups are
a permutation of the batch, and no other groups are like this. -/
theorem byPartition_splits_stably (batch : Batch κ ν) :
    (∀ place, place ∈ batch.byPartition.map Prod.fst ↔
      ∃ record ∈ batch.records, record.topicPartition = place) ∧
    (batch.byPartition.map Prod.fst).Pairwise Before ∧
    (∀ place members, (place, members) ∈ batch.byPartition ↔
      members ≠ [] ∧ members = batch.records.filter (·.topicPartition = place)) ∧
    (batch.byPartition.flatMap Prod.snd).Perm batch.records ∧
    ∀ groups : Groups κ ν, groups = batch.byPartition ↔ Ascending groups ∧
      ∀ place members, (place, members) ∈ groups ↔
        members ≠ [] ∧ members = batch.records.filter (·.topicPartition = place) := by
  refine ⟨fun place => ?_, ascending_byPartition batch, fun _ _ => mem_byPartition_iff,
    flatMap_byPartition_perm batch, fun groups => ⟨?_, ?_⟩⟩
  · rw [← own_ne_nil_iff]
    constructor
    · intro given
      obtain ⟨⟨_, members⟩, among, rfl⟩ := List.mem_map.mp given
      obtain ⟨filled, rfl⟩ := mem_byPartition_iff.mp among
      exact filled
    · intro filled
      exact List.mem_map.mpr ⟨_, mem_byPartition_iff.mpr ⟨filled, rfl⟩, rfl⟩
  · rintro rfl
    exact ⟨ascending_byPartition batch, fun _ _ => mem_byPartition_iff⟩
  · rintro ⟨ascending, splits⟩
    exact ascending.eq_of_mem_iff (ascending_byPartition batch) fun ⟨place, members⟩ =>
      (splits place members).trans mem_byPartition_iff.symm

/-- Topics that begin alike and a negative number. -/
example :
    let received (topic : String) (partition offset : Int) : ConsumerRecord Unit Unit :=
      { topic, partition, offset, timestamp := 0, key := none, value := none, headers := {} }
    byPartition ⟨[received "orders" 1 7, received "order" 2 4, received "orders" (-1) 5,
        received "orders" 1 8]⟩ =
      [(⟨"order", 2⟩, [received "order" 2 4]), (⟨"orders", -1⟩, [received "orders" (-1) 5]),
        (⟨"orders", 1⟩, [received "orders" 1 7, received "orders" 1 8])] := by
  decide

end Grouping

end Batch

end PayloadDepot
