import PayloadDepot.Proofs.Claim
import PayloadDepot.Proofs.Storage.ContainerCache
import PayloadDepot.Storage.Memory

/-!
# What a memory depot keeps

Looking up the container of a topic, and checking a payload in, follow from what
the depot holds and from the name that the payload gets.  A sound depot has in
its cache only what its table of containers has, so a payload lies where its
reference leads.  Containers are never taken away, and neither is a payload
whose name is not issued again.
-/

namespace PayloadDepot

variable {δ : Type}

namespace MemoryDepot

def withCache (depot : MemoryDepot) (cache : ContainerCache Nat) : MemoryDepot :=
  { depot with cache := cache }

/-- The cache holds containers that the table has for the same topics, and the table holds
containers that there are. -/
structure Sound (depot : MemoryDepot) : Prop where
  separate : depot.cache.Separate
  cached : ∀ {topic container}, depot.cache.get? topic = some container →
    depot.container? topic = some container
  bounded : ∀ {topic container}, depot.container? topic = some container →
    container < depot.blobs.size

/-- A later depot has the containers of an earlier one and the same payloads. -/
structure Extends (later depot : MemoryDepot) : Prop where
  container? : ∀ {topic container}, depot.container? topic = some container →
    later.container? topic = some container
  payload? : ∀ container name, later.payload? container name = depot.payload? container name
  creates : later.createsContainers = depot.createsContainers

/-- Every reference that leads to a payload leads to it later too. -/
def Keeps (later depot : MemoryDepot) : Prop :=
  ∀ reference payload, depot.find reference = .ok payload →
    later.find reference = .ok payload

theorem find_eq_ok_iff (depot : MemoryDepot) (reference : Reference) (payload : ByteArray) :
    depot.find reference = .ok payload ↔
      ∃ topic name container, reference.locate scheme = .ok (topic, name) ∧
        depot.container? topic = some container ∧
        depot.payload? container name = some payload := by
  rw [find]
  constructor
  · intro found
    cases located : reference.locate scheme with
    | error fault =>
        rw [located] at found
        cases found
    | ok place =>
        obtain ⟨topic, name⟩ := place
        simp only [located, bind, Except.bind] at found
        split at found
        · cases found
        · next container has =>
          split at found
          · next stored lies =>
            cases found
            exact ⟨topic, name, container, rfl, has, lies⟩
          · cases found
  · rintro ⟨topic, name, container, located, has, lies⟩
    simp [located, has, lies, bind, Except.bind]

theorem Keeps.refl (depot : MemoryDepot) : depot.Keeps depot :=
  fun _ _ found => found

theorem Keeps.trans {depot middle later : MemoryDepot} (second : later.Keeps middle)
    (first : middle.Keeps depot) : later.Keeps depot :=
  fun _ _ found => second _ _ (first _ _ found)

theorem Extends.refl (depot : MemoryDepot) : depot.Extends depot where
  container? has := has
  payload? _ _ := rfl
  creates := rfl

theorem Extends.trans {depot middle later : MemoryDepot} (second : later.Extends middle)
    (first : middle.Extends depot) : later.Extends depot where
  container? has := second.container? (first.container? has)
  payload? container name := (second.payload? container name).trans (first.payload? container name)
  creates := second.creates.trans first.creates

theorem Extends.keeps {later depot : MemoryDepot} (extending : later.Extends depot) :
    later.Keeps depot := by
  intro reference payload found
  obtain ⟨topic, name, container, located, has, lies⟩ := (find_eq_ok_iff _ _ _).mp found
  refine (find_eq_ok_iff _ _ _).mpr ⟨topic, name, container, located, extending.container? has, ?_⟩
  rw [extending.payload?, lies]

theorem extends_withCache (depot : MemoryDepot) (cache : ContainerCache Nat) :
    (depot.withCache cache).Extends depot where
  container? has := has
  payload? _ _ := rfl
  creates := rfl

namespace Sound

variable {depot : MemoryDepot}

theorem slot (sound : depot.Sound) (topic : String) :
    (depot.withCache (depot.cache.slot topic).2).Sound where
  separate := sound.separate.slot topic
  cached found := by
    rw [withCache, sound.separate.get?_slot] at found
    exact sound.cached found
  bounded := sound.bounded

/-- The slot of a topic may be filled with the container of the topic. -/
theorem fill (sound : depot.Sound) {topic : String} {index container : Nat}
    (found : depot.cache.slots.get? topic = some index)
    (has : depot.container? topic = some container) :
    (depot.withCache (depot.cache.fill index container)).Sound where
  separate := sound.separate.fill index container
  cached {other entry} given := by
    rw [withCache, sound.separate.get?_fill found] at given
    by_cases same : other = topic
    · subst same
      rw [if_pos rfl, Option.some.injEq] at given
      cases earlier : depot.cache.get? other with
      | none =>
          rw [earlier, Option.getD_none] at given
          rw [← given]
          exact has
      | some present =>
          rw [earlier, Option.getD_some] at given
          rw [← given]
          exact sound.cached earlier
    · rw [if_neg same] at given
      exact sound.cached given
  bounded := sound.bounded

end Sound

section Create

variable {depot : MemoryDepot} {topic : String}

theorem create_of_some {container : Nat} (has : depot.container? topic = some container) :
    depot.create topic = ((container, false), depot) := by
  rw [create, has]

theorem create_of_none (has : depot.container? topic = none) :
    depot.create topic = ((depot.blobs.size, true),
      { depot with
        containers := depot.containers.insert topic depot.blobs.size
        blobs := depot.blobs.push .empty
        creations := depot.creations.insert topic ((depot.creations.get? topic).getD 0 + 1) }) := by
  rw [create, has]

theorem container?_create (depot : MemoryDepot) (topic : String) :
    (depot.create topic).2.container? topic = some (depot.create topic).1.1 := by
  cases has : depot.container? topic with
  | some container => rw [create_of_some has, has]
  | none =>
      rw [create_of_none has]
      exact Table.get?_insert_self _ _ _

theorem container?_create_of_ne {other : String} (different : other ≠ topic) :
    (depot.create topic).2.container? other = depot.container? other := by
  cases has : depot.container? topic with
  | some container => rw [create_of_some has]
  | none =>
      rw [create_of_none has]
      exact Table.get?_insert_of_ne different _ _

@[simp]
theorem cache_create (depot : MemoryDepot) (topic : String) :
    (depot.create topic).2.cache = depot.cache := by
  cases has : depot.container? topic with
  | some container => rw [create_of_some has]
  | none => rw [create_of_none has]

theorem size_blobs_le_create (depot : MemoryDepot) (topic : String) :
    depot.blobs.size ≤ (depot.create topic).2.blobs.size := by
  cases has : depot.container? topic with
  | some container => simp [create_of_some has]
  | none => simp [create_of_none has]

theorem extends_create (depot : MemoryDepot) (topic : String) :
    (depot.create topic).2.Extends depot where
  container? {other container} held := by
    by_cases same : other = topic
    · subst same
      rw [create_of_some held, held]
    · rw [container?_create_of_ne same, held]
  payload? container name := by
    cases has : depot.container? topic with
    | some container => rw [create_of_some has]
    | none =>
        simp only [create_of_none has, MemoryDepot.payload?, Array.getElem?_push]
        split
        · next last => simp [last]
        · rfl
  creates := by
    cases has : depot.container? topic with
    | some container => rw [create_of_some has]
    | none => rw [create_of_none has]

theorem Sound.create (sound : depot.Sound) (topic : String) :
    (depot.create topic).2.Sound where
  separate := by
    rw [cache_create]
    exact sound.separate
  cached found := by
    rw [cache_create] at found
    exact (extends_create depot topic).container? (sound.cached found)
  bounded {other container} held := by
    by_cases same : other = topic
    · subst same
      rw [container?_create, Option.some.injEq] at held
      rw [← held]
      cases has : depot.container? other with
      | some container =>
          rw [create_of_some has]
          exact sound.bounded has
      | none => simp [create_of_none has]
    · rw [container?_create_of_ne same] at held
      exact Nat.lt_of_lt_of_le (sound.bounded held) (size_blobs_le_create depot topic)

end Create

section Insert

variable {depot : MemoryDepot} {container : Nat} {name : String}

/-- A payload that is put into a container is the only change. -/
theorem payload?_insert (bounded : container < depot.blobs.size) (name : String)
    (payload : ByteArray) (other : Nat) (otherName : String) :
    (depot.insert container name payload).payload? other otherName =
      if other = container ∧ otherName = name then some payload
      else depot.payload? other otherName := by
  simp only [payload?, insert, Array.getElem?_modify]
  by_cases same : container = other
  · subst same
    simp only [↓reduceIte, true_and, Array.getElem?_eq_getElem bounded, Option.map_some,
      Option.bind_some]
    by_cases named : otherName = name
    · subst named
      simp
    · simp [named, Table.get?_insert_of_ne named]
  · simp [same, Ne.symm same]

theorem Sound.insert (sound : depot.Sound) (container : Nat) (name : String)
    (payload : ByteArray) : (depot.insert container name payload).Sound where
  separate := sound.separate
  cached := sound.cached
  bounded held := by
    simpa [MemoryDepot.insert] using sound.bounded held

/-- A payload under a name that no other one has leaves all others where they are. -/
theorem keeps_insert (bounded : container < depot.blobs.size)
    (fresh : ∀ container, depot.payload? container name = none) (payload : ByteArray) :
    (depot.insert container name payload).Keeps depot := by
  intro reference stored found
  obtain ⟨topic, held, place, located, has, lies⟩ := (find_eq_ok_iff _ _ _).mp found
  refine (find_eq_ok_iff _ _ _).mpr ⟨topic, held, place, located, has, ?_⟩
  have different : held ≠ name := by
    rintro rfl
    rw [fresh] at lies
    cases lies
  rw [payload?_insert bounded, if_neg (fun same => different same.2), lies]

end Insert

section Opening

/-- The container that the payloads of a topic go into, and the depot after it was looked up. -/
def opening (depot : MemoryDepot) (topic : String) : Except Fault Nat × MemoryDepot :=
  let (index, cache) := depot.cache.slot topic
  let slotted := depot.withCache cache
  match depot.cache.get? topic with
  | some container => (.ok container, slotted)
  | none =>
      match depot.container? topic with
      | some container => (.ok container, slotted.withCache (cache.fill index container))
      | none =>
          if depot.createsContainers then
            let ((container, _), created) := slotted.create topic
            (.ok container, created.withCache (cache.fill index container))
          else (.error (.depot (.containerMissing topic)), slotted)

variable {depot after : MemoryDepot} {topic : String} {container : Nat}

theorem opening_of_cached (cached : depot.cache.get? topic = some container) :
    depot.opening topic = (.ok container, depot.withCache (depot.cache.slot topic).2) := by
  simp [opening, cached]

theorem opening_of_container? (uncached : depot.cache.get? topic = none)
    (has : depot.container? topic = some container) :
    depot.opening topic = (.ok container, depot.withCache
      ((depot.cache.slot topic).2.fill (depot.cache.slot topic).1 container)) := by
  simp [opening, uncached, has, withCache]

theorem opening_of_create (uncached : depot.cache.get? topic = none)
    (missing : depot.container? topic = none) (creates : depot.createsContainers = true) :
    let created := (depot.withCache (depot.cache.slot topic).2).create topic
    depot.opening topic = (.ok created.1.1, created.2.withCache
      ((depot.cache.slot topic).2.fill (depot.cache.slot topic).1 created.1.1)) := by
  simp [opening, uncached, missing, creates]

theorem opening_of_missing (uncached : depot.cache.get? topic = none)
    (missing : depot.container? topic = none) (creates : depot.createsContainers = false) :
    depot.opening topic = (.error (.depot (.containerMissing topic)),
      depot.withCache (depot.cache.slot topic).2) := by
  simp [opening, uncached, missing, creates]

/-- Looking a container up stores nothing and leaves a sound depot sound. -/
theorem Sound.opening (sound : depot.Sound) (topic : String) :
    (depot.opening topic).2.Sound ∧ (depot.opening topic).2.Extends depot := by
  have slotted := sound.slot topic
  cases cached : depot.cache.get? topic with
  | some container =>
      rw [opening_of_cached cached]
      exact ⟨slotted, extends_withCache _ _⟩
  | none =>
      cases has : depot.container? topic with
      | some container =>
          rw [opening_of_container? cached has]
          exact ⟨slotted.fill (ContainerCache.get?_slots_slot _ _) has, extends_withCache _ _⟩
      | none =>
          cases creates : depot.createsContainers with
          | false =>
              rw [opening_of_missing cached has creates]
              exact ⟨slotted, extends_withCache _ _⟩
          | true =>
              rw [opening_of_create cached has creates]
              have created := slotted.create topic
              have named := ContainerCache.get?_slots_slot depot.cache topic
              refine ⟨?_, (extends_withCache _ _).trans
                ((extends_create _ topic).trans (extends_withCache _ _))⟩
              have filled := created.fill (by rw [cache_create]; exact named)
                (container?_create _ topic)
              rw [cache_create] at filled
              exact filled

theorem container?_of_opening (sound : depot.Sound)
    (opened : depot.opening topic = (.ok container, after)) :
    after.container? topic = some container := by
  cases cached : depot.cache.get? topic with
  | some present =>
      rw [opening_of_cached cached] at opened
      cases opened
      exact sound.cached cached
  | none =>
      cases has : depot.container? topic with
      | some present =>
          rw [opening_of_container? cached has] at opened
          cases opened
          exact has
      | none =>
          cases creates : depot.createsContainers with
          | false =>
              rw [opening_of_missing cached has creates] at opened
              cases opened
          | true =>
              rw [opening_of_create cached has creates] at opened
              cases opened
              exact container?_create _ topic

theorem exists_opening (creates : depot.createsContainers = true) (topic : String) :
    ∃ container after, depot.opening topic = (.ok container, after) := by
  cases cached : depot.cache.get? topic with
  | some container => exact ⟨_, _, opening_of_cached cached⟩
  | none =>
      cases has : depot.container? topic with
      | some container => exact ⟨_, _, opening_of_container? cached has⟩
      | none => exact ⟨_, _, opening_of_create cached has creates⟩

end Opening

end MemoryDepot

end PayloadDepot
