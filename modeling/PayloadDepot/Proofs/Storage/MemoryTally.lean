import PayloadDepot.Proofs.Storage.Memory
import PayloadDepot.Proofs.Table

/-!
# What a memory depot counts

A memory depot tallies with a list of what was stored in it if every topic that
has a container has one of its own, created once, and every container holds as
many payloads as were stored for its topic.  Creating a container and storing a
payload under a new name keep it so; what the cache holds does not matter.
-/

namespace PayloadDepot

namespace MemoryDepot

/-- The counts of a depot agree with the topics and names that payloads were stored under. -/
structure Tallied (depot : MemoryDepot) (stores : List (String × String)) : Prop where
  bounded : ∀ {topic container}, depot.container? topic = some container →
    container < depot.blobs.size
  apart : ∀ {topic other container}, depot.container? topic = some container →
    depot.container? other = some container → topic = other
  created : ∀ topic, depot.creationCount topic = if (depot.container? topic).isSome then 1 else 0
  stored : ∀ topic, depot.storedCount topic = stores.countP fun store => store.1 = topic
  named : ∀ {container name payload}, depot.payload? container name = some payload →
    name ∈ stores.map Prod.snd

theorem tallied_empty (creates : Bool) : Tallied { createsContainers := creates } [] where
  bounded has := by cases has
  apart has := by cases has
  created topic := rfl
  stored topic := rfl
  named lies := by simp [payload?] at lies

variable {depot : MemoryDepot} {stores : List (String × String)} {topic : String}

section Counts

theorem storedCount_of_some {container : Nat} (has : depot.container? topic = some container) :
    depot.storedCount topic = ((depot.blobs[container]?).map (·.entries.length)).getD 0 := by
  rw [storedCount, has]

theorem storedCount_of_none (missing : depot.container? topic = none) :
    depot.storedCount topic = 0 := by
  rw [storedCount, missing]

variable (missing : depot.container? topic = none)

include missing

theorem blobs_create_of_none : (depot.create topic).2.blobs = depot.blobs.push .empty := by
  rw [create_of_none missing]

theorem container?_create_of_none (other : String) :
    (depot.create topic).2.container? other =
      if other = topic then some depot.blobs.size else depot.container? other := by
  split
  · next same => rw [same, container?_create, create_of_none missing]
  · next different => exact container?_create_of_ne different

theorem creationCount_create_of_none (other : String) :
    (depot.create topic).2.creationCount other =
      depot.creationCount other + if other = topic then 1 else 0 := by
  by_cases same : other = topic
  · simp [creationCount, create_of_none missing, same]
  · simp [creationCount, create_of_none missing, Table.get?_insert_of_ne same, same]

omit missing

/-- A container that was just created holds nothing. -/
theorem storedCount_create (bounded : ∀ {topic container},
    depot.container? topic = some container → container < depot.blobs.size)
    (topic other : String) :
    (depot.create topic).2.storedCount other = depot.storedCount other := by
  cases missing : depot.container? topic with
  | some container => rw [create_of_some missing]
  | none =>
      have container := container?_create_of_none missing other
      by_cases same : other = topic
      · rw [if_pos same] at container
        rw [storedCount_of_some container, blobs_create_of_none missing, same,
          storedCount_of_none missing]
        simp [Table.empty]
      · rw [if_neg same] at container
        rw [storedCount, storedCount, container, blobs_create_of_none missing]
        cases has : depot.container? other with
        | none => rfl
        | some place => simp [Array.getElem?_push, Nat.ne_of_lt (bounded has)]

/-- A payload under a name that is new to its container counts for the topics of the container. -/
theorem storedCount_insert {container : Nat} (bound : container < depot.blobs.size) {name : String}
    (missing : depot.payload? container name = none) (payload : ByteArray) (other : String) :
    (depot.insert container name payload).storedCount other =
      depot.storedCount other + if depot.container? other = some container then 1 else 0 := by
  have kept : (depot.insert container name payload).container? other = depot.container? other := rfl
  cases has : depot.container? other with
  | none => rw [storedCount_of_none has, storedCount_of_none (kept.trans has), if_neg nofun]
  | some place =>
      rw [storedCount_of_some has, storedCount_of_some (kept.trans has), MemoryDepot.insert,
        Array.getElem?_modify]
      by_cases same : container = place
      · subst same
        rw [payload?, Array.getElem?_eq_getElem bound, Option.bind_some] at missing
        simp [Array.getElem?_eq_getElem bound, Table.length_entries_insert_of_none _ _ _ missing]
      · simp [same, Ne.symm same]

end Counts

namespace Tallied

/-- Only the containers, what lies in them and the creations count. -/
theorem congr (tallied : depot.Tallied stores) {other : MemoryDepot}
    (containers : other.containers = depot.containers) (blobs : other.blobs = depot.blobs)
    (creations : other.creations = depot.creations) : other.Tallied stores := by
  have container? : other.container? = depot.container? := by
    funext topic
    rw [MemoryDepot.container?, containers, MemoryDepot.container?]
  refine ⟨?_, ?_, ?_, ?_, ?_⟩
  · rw [container?, blobs]
    exact tallied.bounded
  · rw [container?]
    exact tallied.apart
  · intro topic
    rw [container?, creationCount, creations]
    exact tallied.created topic
  · intro topic
    rw [storedCount, container?, blobs]
    exact tallied.stored topic
  · intro container name payload lies
    rw [payload?, blobs] at lies
    exact tallied.named lies

theorem create (tallied : depot.Tallied stores) (topic : String) :
    (depot.create topic).2.Tallied stores := by
  cases missing : depot.container? topic with
  | some container =>
      rw [create_of_some missing]
      exact tallied
  | none =>
      have containers := container?_create_of_none missing
      refine ⟨?_, ?_, ?_, ?_, ?_⟩
      · intro other container has
        rw [blobs_create_of_none missing, Array.size_push]
        rw [containers] at has
        split at has
        · cases has
          exact Nat.lt_succ_self _
        · exact Nat.lt_succ_of_lt (tallied.bounded has)
      · intro first second container has hasToo
        -- The new container is none of those that there were before.
        rw [containers] at has hasToo
        split at has
        · next same =>
          cases has
          split at hasToo
          · next sameToo => rw [same, sameToo]
          · exact absurd (tallied.bounded hasToo) (Nat.lt_irrefl _)
        · split at hasToo
          · cases hasToo
            exact absurd (tallied.bounded has) (Nat.lt_irrefl _)
          · exact tallied.apart has hasToo
      · intro other
        rw [creationCount_create_of_none missing, containers, tallied.created other]
        by_cases same : other = topic
        · simp [same, missing]
        · simp [same]
      · intro other
        rw [storedCount_create tallied.bounded, tallied.stored other]
      · intro container name payload lies
        rw [(extends_create depot topic).payload?] at lies
        exact tallied.named lies

theorem fresh (tallied : depot.Tallied stores) {name : String}
    (unused : name ∉ stores.map Prod.snd) (container : Nat) :
    depot.payload? container name = none := by
  cases lies : depot.payload? container name with
  | none => rfl
  | some payload => exact absurd (tallied.named lies) unused

theorem insert (tallied : depot.Tallied stores) {container : Nat}
    (has : depot.container? topic = some container) {name : String}
    (unused : name ∉ stores.map Prod.snd) (payload : ByteArray) :
    (depot.insert container name payload).Tallied (stores ++ [(topic, name)]) := by
  have bound := tallied.bounded has
  refine ⟨?_, tallied.apart, tallied.created, ?_, ?_⟩
  · intro other place hasToo
    simpa [MemoryDepot.insert] using tallied.bounded hasToo
  · intro other
    have same : depot.container? other = some container ↔ topic = other :=
      ⟨fun hasToo => tallied.apart has hasToo, fun same => same ▸ has⟩
    rw [storedCount_insert bound (tallied.fresh unused container), tallied.stored other,
      List.countP_append]
    simp [same, List.countP_cons]
  · intro place other stored lies
    rw [payload?_insert bound] at lies
    rw [List.map_append, List.mem_append]
    split at lies
    · next here => exact .inr (by simp [here.2])
    · exact .inl (tallied.named lies)

end Tallied

end MemoryDepot

end PayloadDepot
