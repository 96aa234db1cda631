import Mathlib.Logic.Relation
import PayloadDepot.Proofs.Storage.Memory

/-!
# Runs of memory depots

A run of a memory depot is any sequence of its calls, with anything else that
happens in the world between them.  As long as no name is issued twice, a run
leaves the depot sound and takes no payload away: a reference that leads to a
payload leads to the same one ever after.
-/

namespace PayloadDepot

variable {δ : Type}

namespace MemoryDepot

variable {place : Cell δ MemoryDepot}

section Calls

theorem lawful_cacheCell (lawful : place.Lawful) : (cacheCell place).Lawful := by
  intro cache state
  simp [cacheCell, lawful _ state]

theorem read_write_cacheCell (lawful : place.Lawful) (cache : ContainerCache Nat) (state : δ) :
    place.read ((cacheCell place).write cache state) = (place.read state).withCache cache :=
  lawful _ state

theorem on_createContainer (place : Cell δ MemoryDepot) (topic : String) (world : World δ) :
    let created := (place.read world.state).create topic
    ∃ journal, Effect.on (createContainer place topic) world =
      (created.1.1, world.progressed (place.write created.2 world.state) journal
        world.namesIssued) := by
  intro created
  rw [createContainer, Effect.on_bind, Cell.on_updateGet]
  change ∃ journal, Effect.on (do
    if created.1.2 = true then World.log .info _
    return created.1.1) _ = _
  cases created.1.2 with
  | false => exact ⟨_, rfl⟩
  | true => exact ⟨_, rfl⟩

theorem on_findContainer_of_some {topic : String} {world : World δ} {container : Nat}
    (has : (place.read world.state).container? topic = some container) :
    Action.on (findContainer place topic) world = (.ok container, world) := by
  rw [findContainer, Action.on_lift_bind, Cell.on_load]
  dsimp only
  rw [has]
  rfl

theorem on_findContainer_of_none {topic : String} {world : World δ}
    (missing : (place.read world.state).container? topic = none) :
    Action.on (findContainer place topic) world =
      if (place.read world.state).createsContainers then
        Action.on (Action.lift (createContainer place topic)) world
      else (.error (.depot (.containerMissing topic)), world) := by
  rw [findContainer, Action.on_lift_bind, Cell.on_load]
  dsimp only
  rw [missing]
  cases (place.read world.state).createsContainers <;> rfl

theorem on_container (lawful : place.Lawful) (topic : String) (world : World δ) :
    let opened := (place.read world.state).opening topic
    ∃ state journal, place.read state = opened.2 ∧
      Action.on (container place topic) world =
        (opened.1, world.progressed state journal world.namesIssued) := by
  let depot := place.read world.state
  let slotted := ContainerCache.slotting (cacheCell place) topic world
  have lawfulCache := lawful_cacheCell lawful
  have read : place.read slotted.state = depot.withCache (depot.cache.slot topic).2 :=
    read_write_cacheCell lawful _ _
  intro opened
  have opens : opened = depot.opening topic := rfl
  cases cached : depot.cache.get? topic with
  | some container =>
      have looked := ContainerCache.on_getOrCreate_of_some lawfulCache cached
        (findContainer place topic)
      rw [opens, opening_of_cached cached]
      exact ⟨slotted.state, world.journal, read, looked⟩
  | none =>
      cases has : depot.container? topic with
      | some container =>
          have found : Action.on (findContainer place topic) slotted = (.ok container, slotted) :=
            on_findContainer_of_some (by rw [read]; exact has)
          have looked := ContainerCache.on_getOrCreate_of_ok lawfulCache cached found
          rw [opens, opening_of_container? cached has]
          refine ⟨_, world.journal, ?_, looked⟩
          rw [read_write_cacheCell lawful]
          simp only [cacheCell, read]
          rfl
      | none =>
          have missing : Action.on (findContainer place topic) slotted =
              if depot.createsContainers then
                Action.on (Action.lift (createContainer place topic)) slotted
              else (.error (.depot (.containerMissing topic)), slotted) := by
            rw [on_findContainer_of_none (by rw [read]; exact has), read]
            rfl
          cases creates : depot.createsContainers with
          | false =>
              rw [creates] at missing
              have looked := ContainerCache.on_getOrCreate_of_error lawfulCache cached missing
              rw [opens, opening_of_missing cached has creates]
              exact ⟨slotted.state, world.journal, read, looked⟩
          | true =>
              obtain ⟨journal, created⟩ := on_createContainer place topic slotted
              rw [creates, if_pos rfl, Action.on_lift, created, read] at missing
              have looked := ContainerCache.on_getOrCreate_of_ok lawfulCache cached missing
              rw [opens, opening_of_create cached has creates]
              refine ⟨_, journal, ?_, looked⟩
              rw [read_write_cacheCell lawful]
              simp only [cacheCell, World.progressed_state, lawful _ _, cache_create]
              rfl

section CheckIn

variable {topic : String} {world : World δ} {opened : MemoryDepot}

/-- A payload is put under a fresh name into the container of its topic. -/
theorem on_checkIn_of_ok (lawful : place.Lawful) {container : Nat}
    (opens : (place.read world.state).opening topic = (.ok container, opened))
    (payload : ByteArray) :
    let name := world.nameSource world.namesIssued
    ∃ state journal, place.read state = opened.insert container name payload ∧
      Action.on (checkIn place topic payload) world =
        (.ok (Reference.compose scheme topic name),
          world.progressed state journal (world.namesIssued + 1)) := by
  intro name
  obtain ⟨state, journal, read, found⟩ := on_container lawful topic world
  rw [opens] at read found
  rw [checkIn, Action.on_bind_of_ok found]
  refine ⟨place.write ((place.read state).insert container name payload) state, _, ?_, rfl⟩
  rw [lawful _ _, read]

theorem on_checkIn_of_error (lawful : place.Lawful) {fault : Fault}
    (opens : (place.read world.state).opening topic = (.error fault, opened))
    (payload : ByteArray) :
    ∃ state journal, place.read state = opened ∧
      Action.on (checkIn place topic payload) world =
        (.error fault, world.progressed state journal world.namesIssued) := by
  obtain ⟨state, journal, read, found⟩ := on_container lawful topic world
  rw [opens] at read found
  exact ⟨state, journal, read, Action.on_bind_of_error found _⟩

end CheckIn

@[simp]
theorem on_checkOut (place : Cell δ MemoryDepot) (reference : Reference) (world : World δ) :
    Action.on (checkOut place reference) world =
      ((place.read world.state).find reference, world) := by
  simp [checkOut]

def closing (depot : MemoryDepot) : MemoryDepot :=
  if depot.closed then depot else { depot with closed := true, cache := depot.cache.clear }

theorem on_close (lawful : place.Lawful) (world : World δ) :
    ∃ state journal, place.read state = (place.read world.state).closing ∧
      Effect.on (close place) world =
        ((), world.progressed state journal world.namesIssued) := by
  rw [close, Effect.on_bind, Cell.on_updateGet]
  dsimp only
  cases was : (place.read world.state).closed with
  | true =>
      refine ⟨_, world.journal, ?_, rfl⟩
      simp [lawful _ _, closing, was]
  | false =>
      refine ⟨_, _, ?_, rfl⟩
      simp [lawful _ _, closing, was]

theorem extends_closing (depot : MemoryDepot) : depot.closing.Extends depot := by
  rw [closing]
  split
  · exact .refl depot
  · exact ⟨id, fun _ _ => rfl, rfl⟩

theorem Sound.closing {depot : MemoryDepot} (sound : depot.Sound) : depot.closing.Sound := by
  rw [MemoryDepot.closing]
  split
  · exact sound
  · exact ⟨.clear _, fun found => by simp at found, sound.bounded⟩

end Calls

section Runs

/-- The names that were issued are different from each other and can stand in references. -/
structure ProperNames (world : World δ) : Prop where
  distinct : ∀ {first second}, first < world.namesIssued → second < world.namesIssued →
    world.nameSource first = world.nameSource second → first = second
  component : ∀ {number}, number < world.namesIssued → Text.IsComponent (world.nameSource number)

/-- Names go on being issued by the same source. -/
structure GoesOn (after world : World δ) : Prop where
  nameSource : after.nameSource = world.nameSource
  issued : world.namesIssued ≤ after.namesIssued

/-- The depot is sound, and its payloads lie under names that were issued. -/
structure Intact (place : Cell δ MemoryDepot) (world : World δ) : Prop where
  sound : (place.read world.state).Sound
  issued : ∀ {container name payload},
    (place.read world.state).payload? container name = some payload →
      ∃ number < world.namesIssued, world.nameSource number = name

/-- One call of a memory depot, or anything that does not touch it. -/
inductive Step (place : Cell δ MemoryDepot) (world : World δ) : World δ → Prop
  | checkIn (topic : String) (payload : ByteArray) :
      Step place world (Action.on (checkIn place topic payload) world).2
  | createContainer (topic : String) :
      Step place world (Effect.on (createContainer place topic) world).2
  | close : Step place world (Effect.on (close place) world).2
  | elsewhere {after : World δ} (untouched : place.read after.state = place.read world.state)
      (goesOn : GoesOn after world) : Step place world after

def Leads (place : Cell δ MemoryDepot) : World δ → World δ → Prop :=
  Relation.ReflTransGen (Step place)

theorem ProperNames.earlier {world after : World δ} (proper : ProperNames after)
    (goesOn : GoesOn after world) : ProperNames world where
  distinct firstLt secondLt same := by
    rw [← goesOn.nameSource] at same
    exact proper.distinct (Nat.lt_of_lt_of_le firstLt goesOn.issued)
      (Nat.lt_of_lt_of_le secondLt goesOn.issued) same
  component bound := by
    rw [← goesOn.nameSource]
    exact proper.component (Nat.lt_of_lt_of_le bound goesOn.issued)

theorem GoesOn.refl (world : World δ) : GoesOn world world :=
  ⟨rfl, Nat.le_refl _⟩

theorem GoesOn.trans {world middle after : World δ} (second : GoesOn after middle)
    (first : GoesOn middle world) : GoesOn after world :=
  ⟨second.nameSource.trans first.nameSource, Nat.le_trans first.issued second.issued⟩

variable {world after : World δ}

/-- Nothing lies under a name that is yet to be issued. -/
theorem Intact.fresh (intact : Intact place world)
    (proper : ∀ number < world.namesIssued,
      world.nameSource number ≠ world.nameSource world.namesIssued) (container : Nat) :
    (place.read world.state).payload? container (world.nameSource world.namesIssued) = none := by
  cases lies : (place.read world.state).payload? container
      (world.nameSource world.namesIssued) with
  | none => rfl
  | some payload =>
      obtain ⟨number, bound, named⟩ := intact.issued lies
      exact absurd named (proper number bound)

theorem Intact.of_extends (intact : Intact place world) (goesOn : GoesOn after world)
    (sound : (place.read after.state).Sound)
    (extending : (place.read after.state).Extends (place.read world.state)) :
    Intact place after where
  sound := sound
  issued lies := by
    rw [extending.payload?] at lies
    obtain ⟨number, bound, named⟩ := intact.issued lies
    exact ⟨number, Nat.lt_of_lt_of_le bound goesOn.issued, goesOn.nameSource ▸ named⟩

theorem goesOn_checkIn (lawful : place.Lawful) (topic : String) (payload : ByteArray)
    (world : World δ) : GoesOn (Action.on (checkIn place topic payload) world).2 world := by
  cases opens : (place.read world.state).opening topic with
  | mk outcome opened =>
      cases outcome with
      | error fault =>
          obtain ⟨state, journal, -, ran⟩ := on_checkIn_of_error lawful opens payload
          rw [ran]
          exact ⟨rfl, Nat.le_refl _⟩
      | ok container =>
          obtain ⟨state, journal, -, ran⟩ := on_checkIn_of_ok lawful opens payload
          rw [ran]
          exact ⟨rfl, Nat.le_succ _⟩

theorem Step.goesOn (lawful : place.Lawful) (step : Step place world after) :
    GoesOn after world := by
  cases step with
  | checkIn topic payload => exact goesOn_checkIn lawful topic payload world
  | createContainer topic =>
      obtain ⟨journal, created⟩ := on_createContainer place topic world
      rw [created]
      exact ⟨rfl, Nat.le_refl _⟩
  | close =>
      obtain ⟨state, journal, -, ran⟩ := on_close lawful world
      rw [ran]
      exact ⟨rfl, Nat.le_refl _⟩
  | elsewhere untouched goesOn => exact goesOn

theorem Leads.goesOn (lawful : place.Lawful) (leads : Leads place world after) :
    GoesOn after world := by
  induction leads with
  | refl => exact .refl world
  | tail _ step inductionHypothesis => exact (step.goesOn lawful).trans inductionHypothesis

/-- What is preserved from a world with an intact depot to a later one. -/
structure Preserves (place : Cell δ MemoryDepot) (after world : World δ) : Prop where
  intact : Intact place after
  keeps : (place.read after.state).Keeps (place.read world.state)
  creates : (place.read after.state).createsContainers =
    (place.read world.state).createsContainers

theorem Preserves.of_extends (intact : Intact place world) (goesOn : GoesOn after world)
    (sound : (place.read after.state).Sound)
    (extending : (place.read after.state).Extends (place.read world.state)) :
    Preserves place after world where
  intact := intact.of_extends goesOn sound extending
  keeps := extending.keeps
  creates := extending.creates

/-- Checking a payload in takes no other one away. -/
theorem preserves_checkIn (lawful : place.Lawful) (intact : Intact place world) (topic : String)
    (payload : ByteArray)
    (proper : ProperNames (Action.on (checkIn place topic payload) world).2) :
    Preserves place (Action.on (checkIn place topic payload) world).2 world := by
  have opening := intact.sound.opening topic
  cases opens : (place.read world.state).opening topic with
  | mk outcome opened =>
      rw [opens] at opening
      obtain ⟨sound, extending⟩ := opening
      cases outcome with
      | error fault =>
          obtain ⟨state, journal, rfl, ran⟩ := on_checkIn_of_error lawful opens payload
          rw [ran]
          exact .of_extends intact ⟨rfl, Nat.le_refl _⟩ sound extending
      | ok container =>
          obtain ⟨state, journal, read, ran⟩ := on_checkIn_of_ok lawful opens payload
          have bounded := sound.bounded (container?_of_opening intact.sound opens)
          rw [ran] at proper ⊢
          -- No payload lies under a name that was not issued yet, so none is hidden by the new one.
          have fresh (other : Nat) :
              opened.payload? other (world.nameSource world.namesIssued) = none := by
            rw [extending.payload?]
            refine intact.fresh (fun number bound same => ?_) other
            have := proper.distinct (Nat.lt_succ_of_lt bound) (Nat.lt_succ_self _) same
            omega
          refine ⟨⟨?_, ?_⟩, ?_, ?_⟩
          · rw [World.progressed_state, read]
            exact sound.insert container _ payload
          · intro other name stored lies
            rw [World.progressed_state, read, payload?_insert bounded] at lies
            split at lies
            · next here => exact ⟨world.namesIssued, Nat.lt_succ_self _, here.2.symm⟩
            · rw [extending.payload?] at lies
              obtain ⟨number, bound, named⟩ := intact.issued lies
              exact ⟨number, Nat.lt_succ_of_lt bound, named⟩
          · rw [World.progressed_state, read]
            exact (keeps_insert bounded fresh payload).trans extending.keeps
          · rw [World.progressed_state, read]
            exact extending.creates

/-- Every step preserves what the depot keeps. -/
theorem preserves_step (lawful : place.Lawful) (intact : Intact place world)
    (step : Step place world after) (proper : ProperNames after) :
    Preserves place after world := by
  cases step with
  | checkIn topic payload => exact preserves_checkIn lawful intact topic payload proper
  | createContainer topic =>
      obtain ⟨journal, created⟩ := on_createContainer place topic world
      rw [created]
      refine .of_extends intact ⟨rfl, Nat.le_refl _⟩ ?_ ?_
      · rw [World.progressed_state, lawful]
        exact intact.sound.create topic
      · rw [World.progressed_state, lawful]
        exact extends_create _ topic
  | close =>
      obtain ⟨state, journal, read, ran⟩ := on_close lawful world
      rw [ran]
      refine .of_extends intact ⟨rfl, Nat.le_refl _⟩ ?_ ?_
      · rw [World.progressed_state, read]
        exact intact.sound.closing
      · rw [World.progressed_state, read]
        exact extends_closing _
  | elsewhere untouched goesOn =>
      refine .of_extends intact goesOn ?_ ?_
      · rw [untouched]
        exact intact.sound
      · rw [untouched]
        exact .refl _

/-- Every run whose names are proper preserves what the depot keeps. -/
theorem preserves_leads (lawful : place.Lawful) (intact : Intact place world)
    (leads : Leads place world after) (proper : ProperNames after) :
    Preserves place after world := by
  induction leads with
  | refl => exact ⟨intact, .refl _, rfl⟩
  | tail _ step inductionHypothesis =>
      have middle := inductionHypothesis (proper.earlier (step.goesOn lawful))
      have last := preserves_step lawful middle.intact step proper
      exact ⟨last.intact, last.keeps.trans middle.keeps, last.creates.trans middle.creates⟩

theorem intact_of_empty {creates : Bool}
    (empty : place.read world.state = { createsContainers := creates }) :
    Intact place world where
  sound := by
    rw [empty]
    exact ⟨ContainerCache.separate_empty, nofun, nofun⟩
  issued lies := by
    rw [empty] at lies
    cases lies

/-- The reference that a payload was checked in under leads to the payload. -/
theorem Sound.find_of_checkIn (lawful : place.Lawful) (sound : (place.read world.state).Sound)
    {topic : String} (topicOk : Text.IsComponent topic) {payload : ByteArray}
    {reference : Reference}
    (nameOk : world.namesIssued < after.namesIssued →
      Text.IsComponent (after.nameSource world.namesIssued))
    (ran : Action.on (checkIn place topic payload) world = (.ok reference, after)) :
    (place.read after.state).find reference = .ok payload := by
  have opening := sound.opening topic
  cases opens : (place.read world.state).opening topic with
  | mk outcome opened =>
      rw [opens] at opening
      cases outcome with
      | error fault =>
          obtain ⟨state, journal, -, failed⟩ := on_checkIn_of_error lawful opens payload
          rw [failed] at ran
          cases ran
      | ok container =>
          obtain ⟨state, journal, read, kept⟩ := on_checkIn_of_ok lawful opens payload
          rw [kept] at ran
          cases ran
          have has := container?_of_opening sound opens
          refine (find_eq_ok_iff _ _ _).mpr ⟨topic, _, container,
            Reference.locate_compose scheme topicOk (nameOk (Nat.lt_succ_self _)), ?_, ?_⟩
          · rw [World.progressed_state, read]
            exact has
          · rw [World.progressed_state, read, payload?_insert (opening.1.bounded has)]
            exact if_pos ⟨rfl, rfl⟩

theorem find_of_checkIn (lawful : place.Lawful) (intact : Intact place world) {topic : String}
    (topicOk : Text.IsComponent topic) {payload : ByteArray} {reference : Reference}
    (ran : Action.on (checkIn place topic payload) world = (.ok reference, after))
    (proper : ProperNames after) :
    (place.read after.state).find reference = .ok payload :=
  intact.sound.find_of_checkIn lawful topicOk (fun bound => proper.component bound) ran

theorem on_checkIn_of_creates (lawful : place.Lawful)
    (creates : (place.read world.state).createsContainers = true) (topic : String)
    (payload : ByteArray) :
    ∃ reference state journal, Action.on (checkIn place topic payload) world =
      (.ok reference, world.progressed state journal (world.namesIssued + 1)) := by
  obtain ⟨container, opened, opens⟩ := exists_opening creates topic
  obtain ⟨state, journal, -, ran⟩ := on_checkIn_of_ok lawful opens payload
  exact ⟨_, state, journal, ran⟩

end Runs

end MemoryDepot

end PayloadDepot
