import PayloadDepot.Proofs.Storage.Redemption
import PayloadDepot.Proofs.Stream.Ending

/-!
# Declining what has no container

A depot that may not create containers has no place for what is checked in for a
topic whose container is missing.  It declines if it fails for reasons of
storage, has read no stream, and leaves all that it keeps and all that its
references lead to.  A memory depot reads a stream before it looks for the
container: the stream is then used up, and if it ends early, that is the fault
that the caller sees.
-/

namespace PayloadDepot

variable {δ ρ : Type}

namespace Depot

/-- What a depot keeps is as it was, and references lead where they did. -/
structure Unmoved (depot : Depot δ) (kept : World δ → ρ) (world after : World δ) : Prop where
  kept : kept after = kept world
  redeems : ∀ reference payload,
    depot.Redeems reference payload after ↔ depot.Redeems reference payload world

/-- A check-in failed for reasons of storage; it read no stream and changed nothing. -/
structure Declined (depot : Depot δ) (kept : World δ → ρ) (world : World δ)
    (ran : Except Fault Reference × World δ) : Prop where
  fails : ∃ fault, ran.1 = .error fault ∧ fault.kind = .storage
  unread : ran.2.readers = world.readers
  unmoved : depot.Unmoved kept world ran.2

/-- The check-in of a stream failed after the stream was read.  If it ended early, that is the
fault; otherwise the fault is one of storage. -/
structure DeclinedOnceRead (depot : Depot δ) (kept : World δ → ρ) (source : StreamHandle)
    (length : Nat) (world : World δ) (ran : Except Fault Reference × World δ) : Prop where
  fails : ∃ fault, ran.1 = .error fault ∧
    (source.EndsWithin length world ∧ fault.kind = .contract ∨
      ¬ source.EndsWithin length world ∧ fault.kind = .storage)
  read : source.ReadFor length world ran.2
  unmoved : depot.Unmoved kept world ran.2

/-- Whatever is checked in for a topic is declined: streams of some lengths once they were read, and
everything else before anything is read. -/
structure Declines (depot : Depot δ) (kept : World δ → ρ) (readsFirst : Nat → Prop)
    (topic : String) (world : World δ) : Prop where
  checkIn : ∀ payload,
    depot.Declined kept world (Action.on (depot.checkIn topic payload) world)
  checkInStream : ∀ source length, ¬ readsFirst length →
    depot.Declined kept world (Action.on (depot.checkInStream topic source length) world)
  checkInStream_of_readsFirst : ∀ source length, readsFirst length →
    depot.DeclinedOnceRead kept source length world
      (Action.on (depot.checkInStream topic source length) world)

variable {depot : Depot δ} {kept : World δ → ρ} {world middle after : World δ}
  {ran : Except Fault Reference × World δ} {source : StreamHandle} {length : Nat}

theorem Unmoved.trans (first : depot.Unmoved kept world middle)
    (second : depot.Unmoved kept middle after) : depot.Unmoved kept world after where
  kept := second.kept.trans first.kept
  redeems reference payload :=
    (second.redeems reference payload).trans (first.redeems reference payload)

theorem Declined.of_start (declined : depot.Declined kept middle ran)
    (readers : middle.readers = world.readers) (unmoved : depot.Unmoved kept world middle) :
    depot.Declined kept world ran where
  fails := declined.fails
  unread := declined.unread.trans readers
  unmoved := unmoved.trans declined.unmoved

theorem DeclinedOnceRead.of_start (declined : depot.DeclinedOnceRead kept source length middle ran)
    (readers : middle.readers = world.readers) (unmoved : depot.Unmoved kept world middle) :
    depot.DeclinedOnceRead kept source length world ran where
  fails := by
    obtain ⟨fault, failed, told⟩ := declined.fails
    rw [StreamHandle.endsWithin_congr readers] at told
    exact ⟨fault, failed, told⟩
  read := declined.read.congr readers.symm rfl
  unmoved := unmoved.trans declined.unmoved

/-- What reads a stream first and is declined whatever was read is declined once it was read. -/
theorem declinedOnceRead_of_reading {next : ByteArray → Action δ Reference}
    (short : Nat → ContractFault)
    (unmoved : ∀ readers, depot.Unmoved kept world (world.withReaders readers))
    (declined : ∀ bytes readers, depot.Declined kept (world.withReaders readers)
      (Action.on (next bytes) (world.withReaders readers))) :
    depot.DeclinedOnceRead kept source length world
      (Action.on (source.reading length short >>= next) world) := by
  obtain ⟨outcome, readers, read, readFor, reading⟩ := source.on_reading length short world
  rw [Action.on_bind, read]
  cases reading with
  | ended within delivered => exact ⟨⟨_, rfl, .inl ⟨within, rfl⟩⟩, readFor, unmoved readers⟩
  | stopped within fault => exact ⟨⟨_, rfl, .inr ⟨within, rfl⟩⟩, readFor, unmoved readers⟩
  | whole within bytes =>
      obtain ⟨⟨fault, failed, storage⟩, unread, same⟩ := declined bytes readers
      exact ⟨⟨fault, failed, .inr ⟨within, storage⟩⟩, readFor.congr rfl unread,
        (unmoved readers).trans same⟩

end Depot

namespace MemoryDepot

variable {place : Cell δ MemoryDepot} {world after : World δ} {topic : String}

/-- What a memory depot keeps but for its cache. -/
def stored (place : Cell δ MemoryDepot) (world : World δ) : MemoryDepot :=
  (place.read world.state).withCache .empty

theorem unmoved_of_stored (same : stored place after = stored place world) :
    (depot place).Unmoved (stored place) world after where
  kept := same
  redeems reference payload := by
    have find (world : World δ) :
        (place.read world.state).find reference = (stored place world).find reference := rfl
    rw [redeems_iff, redeems_iff, find, find, same]

theorem Sound.of_step (lawful : place.Lawful) (sound : (place.read world.state).Sound)
    (step : Step place world after) : (place.read after.state).Sound := by
  cases step with
  | checkIn topic payload =>
      have opening := (sound.opening topic).1
      rcases opens : (place.read world.state).opening topic with ⟨fault | container, opened⟩ <;>
        rw [opens] at opening
      · obtain ⟨state, journal, read, ran⟩ := on_checkIn_of_error lawful opens payload
        rw [ran, World.progressed_state, read]
        exact opening
      · obtain ⟨state, journal, read, ran⟩ := on_checkIn_of_ok lawful opens payload
        rw [ran, World.progressed_state, read]
        exact opening.insert _ _ _
  | createContainer topic =>
      obtain ⟨journal, created⟩ := on_createContainer place topic world
      rw [created, World.progressed_state, lawful]
      exact sound.create topic
  | close =>
      obtain ⟨state, journal, read, ran⟩ := on_close lawful world
      rw [ran, World.progressed_state, read]
      exact sound.closing
  | elsewhere untouched goesOn =>
      rw [untouched]
      exact sound

theorem Sound.of_leads (lawful : place.Lawful) (sound : (place.read world.state).Sound)
    (leads : Leads place world after) : (place.read after.state).Sound := by
  induction leads with
  | refl => exact sound
  | tail _ step inductionHypothesis => exact inductionHypothesis.of_step lawful step

/-- The check-in of a stream is a run too: the stream is read, and then its bytes are checked in. -/
theorem leads_checkInStream (place : Cell δ MemoryDepot) (topic : String)
    (source : StreamHandle) (length : Nat) (world : World δ) :
    Leads place world (Action.on (checkInStream place topic source length) world).2 := by
  obtain ⟨outcome, readers, read, -⟩ := source.on_reading length (.streamShort · length) world
  rw [checkInStream, Depot.readDeclared_eq_reading, Action.on_bind, read]
  have reads : Leads place world (world.withReaders readers) :=
    .single (.elsewhere rfl ⟨rfl, Nat.le_refl _⟩)
  cases outcome with
  | error fault => exact reads
  | ok bytes => exact .tail reads (.checkIn topic bytes)

/-- The cache of a sound depot does not have the container that is missing either. -/
theorem declined_checkIn (world : World δ) (lawful : place.Lawful)
    (sound : (place.read world.state).Sound)
    (creates : (place.read world.state).createsContainers = false)
    (missing : (place.read world.state).container? topic = none) (payload : ByteArray) :
    (depot place).Declined (stored place) world
      (Action.on (checkIn place topic payload) world) := by
  have uncached : (place.read world.state).cache.get? topic = none := by
    cases cached : (place.read world.state).cache.get? topic with
    | none => rfl
    | some container =>
        rw [sound.cached cached] at missing
        cases missing
  obtain ⟨state, journal, read, ran⟩ :=
    on_checkIn_of_error lawful (opening_of_missing uncached missing creates) payload
  rw [ran]
  refine ⟨⟨_, rfl, rfl⟩, rfl, unmoved_of_stored ?_⟩
  rw [stored, World.progressed_state, read]
  rfl

theorem declines (lawful : place.Lawful) (sound : (place.read world.state).Sound)
    (creates : (place.read world.state).createsContainers = false)
    (missing : (place.read world.state).container? topic = none) :
    (depot place).Declines (stored place) (fun _ => True) topic world where
  checkIn payload := declined_checkIn world lawful sound creates missing payload
  checkInStream _ _ later := absurd trivial later
  checkInStream_of_readsFirst _ length _ :=
    Depot.declinedOnceRead_of_reading (.streamShort · length) (fun _ => unmoved_of_stored rfl)
      fun payload readers =>
        declined_checkIn (world.withReaders readers) lawful sound creates missing payload

end MemoryDepot

end PayloadDepot
