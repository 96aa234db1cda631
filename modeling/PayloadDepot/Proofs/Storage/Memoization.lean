import PayloadDepot.Proofs.Storage.CacheTraffic

/-!
# What container caches remember

Whatever the order of the steps of many calls, a container cache creates once:
of the calls on one name with no clear between their lookups one at most makes a
handle, and it is what all of them come back with that do not fail.  A creation
that fails is seen by its own caller alone and leaves the slot to the next one.
A creation that outlives a clear serves its own caller and is not seen under any
name.  A call that finds or creates is itself a run of such steps.
-/

namespace PayloadDepot

variable {δ ι η : Type}

namespace CacheTraffic

variable [DecidableEq ι] {traffic later : CacheTraffic ι η} {event : Event ι η}
  {events : List (Event ι η)} {call : ι} {visit : Visit η} {fault : Fault} {handle : η}

section Steps

theorem ticket?_step (step : Step traffic event later) {ticket : Ticket}
    (given : traffic.ticket? call = some ticket) : later.ticket? call = some ticket := by
  cases step with
  | @look other name idle =>
      have different : call ≠ other := by
        rintro rfl
        simp [ticket?, idle] at given
      rw [ticket?_looked, if_neg different, given]
  | find present => rw [ticket?_moved present, given]
  | enter present => rw [ticket?_moved present, given]
  | succeed handle present => exact (ticket?_moved present _ _).trans given
  | fail fault present => rw [ticket?_moved present, given]
  | clear => exact given

/-- A filled slot stays as it is. -/
theorem Orderly.filling_step (orderly : traffic.Orderly) (step : Step traffic event later)
    {index : Nat} (filled : traffic.cache.filling index = some handle) :
    later.cache.filling index = some handle := by
  cases step with
  | look name idle => exact (ContainerCache.filling_slot_snd ..).trans filled
  | find present => exact filled
  | enter present => exact filled
  | @succeed _ visit made present creates =>
      have apart : index ≠ visit.index := by
        rintro rfl
        rw [orderly.empty present creates] at filled
        cases filled
      exact (orderly.filling_succeed present creates made index).trans
        ((if_neg apart).trans filled)
  | fail fault present => exact filled
  | clear => exact filled

theorem Orderly.filling_run (orderly : traffic.Orderly) (run : Run traffic events later)
    {index : Nat} (filled : traffic.cache.filling index = some handle) :
    later.cache.filling index = some handle := by
  induction run with
  | nil => exact filled
  | snoc run step inductionHypothesis =>
      exact (orderly.run run).filling_step step inductionHypothesis

omit [DecidableEq ι] in
/-- What a creation makes is seen under its name, unless the cache was cleared since the lookup. -/
theorem Orderly.get?_succeed (orderly : traffic.Orderly)
    (present : traffic.visits call = some visit) (creates : visit.stage = .creating) (handle : η)
    (name : String) :
    (traffic.cache.fill visit.index handle).get? name =
      if name = visit.name ∧ visit.round = traffic.clears then some handle
      else traffic.cache.get? name := by
  have slotted := orderly.slot_iff (ticket?_of_visits present)
  by_cases current : visit.round = traffic.clears
  · have named : traffic.cache.slots.get? visit.name = some visit.index :=
      (slotted _).mpr ⟨rfl, current⟩
    have missing : traffic.cache.get? visit.name = none := by
      rw [ContainerCache.get?, named]
      exact orderly.empty present creates
    simp [orderly.separate.get?_fill named, missing, current]
  · have unnamed : ∀ name, traffic.cache.slots.get? name ≠ some visit.index :=
      fun name given => current ((slotted name).mp given).2
    rw [ContainerCache.get?_fill_of_unnamed unnamed, if_neg (fun both => current both.2)]

/-- A step of a call changes nothing of other names. -/
theorem Orderly.get?_step (orderly : traffic.Orderly) (step : Step traffic event later)
    (own : event.caller? = some call) (present : later.visits call = some visit) {name : String}
    (different : name ≠ visit.name) : later.cache.get? name = traffic.cache.get? name := by
  cases step with
  | look asked idle => exact orderly.separate.get?_slot asked name
  | find _ => rfl
  | enter _ => rfl
  | @succeed other otherVisit made otherPresent creates =>
      cases own
      have given : (traffic.moved call otherVisit (.made made)).visits call = some visit := present
      rw [visits_moved_self, Option.some.injEq] at given
      have named : name ≠ otherVisit.name := by
        rw [← given] at different
        exact different
      exact (orderly.get?_succeed otherPresent creates made name).trans
        (if_neg fun both => named both.1)
  | fail _ _ => rfl
  | clear => cases own

end Steps

section Retry

/-- No call on a name that looked it up in a round has begun its creation, unless it failed. -/
def Untouched (traffic : CacheTraffic ι η) (name : String) (round : Nat) : Prop :=
  ∀ call visit, traffic.visits call = some visit → visit.name = name → visit.round = round →
    visit.stage ≠ .creating ∧ ∀ handle, visit.stage ≠ .made handle

variable {name : String} {round : Nat}

theorem Untouched.step (untouched : traffic.Untouched name round)
    (step : Step traffic event later)
    (unbegun : ∀ {call ticket}, event = .begun call → later.ticket? call = some ticket →
      ¬ (ticket.name = name ∧ ticket.round = round)) : later.Untouched name round := by
  intro call visit present named current
  cases step with
  | look asked idle =>
      rcases of_visits_looked present with waits | ⟨-, before⟩
      · simp [waits]
      · exact untouched _ _ before named current
  | find _ _ filled =>
      rcases of_visits_moved present with ⟨rfl, rfl⟩ | ⟨-, before⟩
      · simp
      · exact untouched _ _ before named current
  | enter _ _ _ _ =>
      rcases of_visits_moved present with ⟨rfl, rfl⟩ | ⟨-, before⟩
      · exact absurd ⟨named, current⟩ (unbegun rfl (ticket?_of_visits present))
      · exact untouched _ _ before named current
  | succeed made otherPresent creates =>
      rcases of_visits_moved present with ⟨rfl, rfl⟩ | ⟨-, before⟩
      · exact absurd creates (untouched _ _ otherPresent named current).1
      · exact untouched _ _ before named current
  | fail fault _ _ =>
      rcases of_visits_moved present with ⟨rfl, rfl⟩ | ⟨-, before⟩
      · simp
      · exact untouched _ _ before named current
  | clear => exact untouched _ _ present named current

theorem Untouched.run (untouched : traffic.Untouched name round)
    (run : Run traffic events later)
    (unbegun : ∀ {call ticket}, .begun call ∈ events → later.ticket? call = some ticket →
      ¬ (ticket.name = name ∧ ticket.round = round)) : later.Untouched name round := by
  induction run with
  | nil => exact untouched
  | @snoc events event middle later run step inductionHypothesis =>
      have middleUntouched := inductionHypothesis fun begun given =>
        unbegun (List.mem_append_left _ begun) (ticket?_step step given)
      exact middleUntouched.step step fun begun given =>
        unbegun (List.mem_append_right _ (by simp [begun])) given

/-- A call that waits for a slot which none of its companions touched begins its own creation. -/
theorem Orderly.enters (orderly : traffic.Orderly)
    (present : traffic.visits call = some visit) (waits : visit.stage = .waiting)
    (untouched : traffic.Untouched visit.name visit.round) :
    (∃ entered, Step traffic (.begun call) entered) ∧
      ∀ {event later}, Step traffic event later → event.caller? = some call →
        event = .begun call := by
  have shares : ∀ {other otherVisit}, traffic.visits other = some otherVisit →
      otherVisit.index = visit.index → otherVisit.stage ≠ .creating ∧
        ∀ handle, otherVisit.stage ≠ .made handle := by
    intro other otherVisit otherPresent shared
    have companions := (orderly.index_eq_iff (ticket?_of_visits otherPresent)
      (ticket?_of_visits present)).mp shared
    exact untouched _ _ otherPresent companions.1 companions.2
  have empty : traffic.cache.filling visit.index = none := by
    cases filled : traffic.cache.filling visit.index with
    | none => rfl
    | some handle =>
        obtain ⟨other, otherVisit, otherPresent, shared, made⟩ := orderly.maker filled
        exact absurd made ((shares otherPresent shared).2 handle)
  refine ⟨⟨_, .enter present waits empty fun otherPresent shared =>
    (shares otherPresent shared).1⟩, ?_⟩
  intro event later step own
  cases step with
  | look name idle =>
      cases own
      rw [idle] at present
      cases present
  | find otherPresent _ filled =>
      cases own
      obtain rfl := Option.some.inj (present.symm.trans otherPresent)
      rw [empty] at filled
      cases filled
  | enter _ _ _ _ =>
      cases own
      rfl
  | succeed _ otherPresent creates =>
      cases own
      obtain rfl := Option.some.inj (present.symm.trans otherPresent)
      rw [waits] at creates
      cases creates
  | fail _ otherPresent creates =>
      cases own
      obtain rfl := Option.some.inj (present.symm.trans otherPresent)
      rw [waits] at creates
      cases creates
  | clear => cases own

/-- A creation that fails leaves its slot as if nobody had touched it, and so are all slots of its
name that are handed out after the next clears, if there was none since its own lookup. -/
theorem Orderly.untouched_of_failed (orderly : traffic.Orderly)
    (step : Step traffic (.failed call fault) later) (present : later.visits call = some visit)
    (follows : round = visit.round ∨ visit.round = traffic.clears ∧ visit.round ≤ round) :
    later.Untouched visit.name round := by
  cases step with
  | @fail _ before _ earlier creates =>
    rw [visits_moved_self, Option.some.injEq] at present
    subst present
    intro other otherVisit otherPresent named current
    rcases of_visits_moved otherPresent with ⟨rfl, rfl⟩ | ⟨different, otherEarlier⟩
    · simp
    have early := orderly.round_le (ticket?_of_visits otherEarlier)
    have same : otherVisit.round = before.round := by
      rcases follows with same | ⟨latest, le⟩
      · exact current.trans same
      · change before.round = traffic.clears at latest
        change before.round ≤ round at le
        change otherVisit.round ≤ traffic.clears at early
        omega
    have shared : otherVisit.index = before.index :=
      (orderly.index_eq_iff (ticket?_of_visits otherEarlier) (ticket?_of_visits earlier)).mpr
        ⟨named, same⟩
    refine ⟨fun creating => different ?_, fun handle made => ?_⟩
    · exact orderly.alone otherEarlier earlier shared creating creates
    · have filled := orderly.returned otherEarlier (by rw [made]; rfl)
      rw [shared, orderly.empty earlier creates] at filled
      cases filled

end Retry

section Alone

variable {place : Cell δ (ContainerCache η)} {name : String} {create : Action δ η}
  {world : World δ}

/-- A call that finds or creates while no other one creates in its slot is a run of its steps, with
the steps that its creation leads the cache through between them. -/
theorem exists_run_getOrCreate (lawful : place.Lawful) (orderly : traffic.Orderly)
    (reads : place.read world.state = traffic.cache) (idle : traffic.visits call = none)
    (quiet : traffic.Quiet name)
    (within : ∀ {start}, Run traffic [.looked call name, .begun call] start →
      start.cache = place.read (ContainerCache.slotting place name world).state →
        ∃ events inner, Run start events inner ∧
          inner.cache = place.read
            (Action.on create (ContainerCache.slotting place name world)).2.state ∧
          inner.visits call = start.visits call) :
    ∃ events later, Run traffic events later ∧
      later.cache =
        place.read (Action.on (ContainerCache.getOrCreate place name create) world).2.state ∧
      ∃ visit, later.visits call = some visit ∧ visit.stage.result? =
        some (Action.on (ContainerCache.getOrCreate place name create) world).1 := by
  let visit : Visit η := ⟨⟨name, traffic.clears, (traffic.cache.slot name).1⟩, .waiting⟩
  have look : Run traffic [.looked call name] (traffic.looked call name) :=
    .single (.look name idle)
  have present : (traffic.looked call name).visits call = some visit := Function.update_self ..
  have slotted : (traffic.looked call name).cache =
      place.read (ContainerCache.slotting place name world).state := by
    rw [ContainerCache.read_slotting lawful, reads]
    rfl
  have filling : (traffic.looked call name).cache.filling visit.index =
      traffic.cache.get? name := ContainerCache.filling_slot _ _
  cases filled : traffic.cache.get? name with
  | some handle =>
      have found := ContainerCache.on_getOrCreate_of_some lawful (reads ▸ filled) create
      rw [filled] at filling
      rw [found]
      exact ⟨_, _, look.snoc (.find present rfl filling), slotted, _,
        visits_moved_self .., rfl⟩
  | none =>
      rw [filled] at filling
      have enter : Run traffic [.looked call name, .begun call] _ :=
        look.snoc (.enter present rfl filling (orderly.alone_of_quiet idle quiet))
      obtain ⟨events, inner, inside, innerCache, kept⟩ := within enter slotted
      have begun := enter.append inside
      have innerPresent : inner.visits call = some { visit with stage := .creating } :=
        kept.trans (visits_moved_self ..)
      have missing : (place.read world.state).get? name = none := reads ▸ filled
      cases ran : Action.on create (ContainerCache.slotting place name world) with
      | mk outcome after =>
          rw [ran] at innerCache
          cases outcome with
          | error fault =>
              rw [ContainerCache.on_getOrCreate_of_error lawful missing ran]
              exact ⟨_, _, .snoc begun (.fail fault innerPresent rfl), innerCache, _,
                visits_moved_self .., rfl⟩
          | ok handle =>
              rw [ContainerCache.on_getOrCreate_of_ok lawful missing ran]
              refine ⟨_, _, .snoc begun (.succeed handle innerPresent rfl), ?_, _,
                visits_moved_self .., rfl⟩
              change inner.cache.fill visit.index handle = place.read (place.write _ _)
              rw [lawful, innerCache, reads]

end Alone

section Memoizes

/-- What is known of a cache and its calls after some events. -/
structure Memoizes (traffic : CacheTraffic ι η) (events : List (Event ι η)) : Prop where
  /-- A slot that is filled never changes. -/
  stays : ∀ {events later index handle}, Run traffic events later →
    traffic.cache.filling index = some handle → later.cache.filling index = some handle
  /-- Of companions one at most makes a handle, -/
  made_once : ∀ {call other visit otherVisit handle otherHandle},
    traffic.visits call = some visit → traffic.visits other = some otherVisit →
      visit.Companions otherVisit.toTicket → visit.stage = .made handle →
        otherVisit.stage = .made otherHandle → call = other
  /-- no creation of another one runs from then on, -/
  none_runs : ∀ {call other visit otherVisit handle},
    traffic.visits call = some visit → traffic.visits other = some otherVisit →
      visit.Companions otherVisit.toTicket → visit.stage = .made handle →
        otherVisit.stage ≠ .creating
  /-- and whoever comes back with a handle has the one that was made. -/
  returned : ∀ {call visit handle}, traffic.visits call = some visit →
    visit.stage.result? = some (.ok handle) → ∃ maker makerVisit,
      traffic.visits maker = some makerVisit ∧ makerVisit.Companions visit.toTicket ∧
        makerVisit.stage = .made handle ∧
          ∀ {other otherVisit otherHandle}, traffic.visits other = some otherVisit →
            visit.Companions otherVisit.toTicket →
              otherVisit.stage.result? = some (.ok otherHandle) → otherHandle = handle
  /-- A call fails with the fault of its own creation only, -/
  failed_own : ∀ {call visit fault}, traffic.visits call = some visit →
    visit.stage = .failed fault → .failed call fault ∈ events
  /-- which no other call and no name takes notice of. -/
  failed : ∀ {call fault later}, Step traffic (.failed call fault) later →
    (∃ visit, later.visits call = some visit ∧ visit.stage = .failed fault) ∧
      (∀ other, other ≠ call → later.visits other = traffic.visits other) ∧
        (∀ name, later.cache.get? name = traffic.cache.get? name) ∧
          later.cache.size = traffic.cache.size
  /-- The next call on the name that has the same slot, or that looks its slot up after a failure
  with no clear since the lookup, does not wait for anything but its own creation. -/
  retried : ∀ {call fault failed visit after later next nextVisit},
    Step traffic (.failed call fault) failed → failed.visits call = some visit →
      Run failed after later → later.visits next = some nextVisit →
        nextVisit.stage = .waiting → nextVisit.name = visit.name →
          (nextVisit.round = visit.round ∨
            visit.round = traffic.clears ∧ visit.round ≤ nextVisit.round) →
              (∀ {other otherVisit}, .begun other ∈ after → later.visits other = some otherVisit →
                ¬ otherVisit.Companions nextVisit.toTicket) →
                (∃ entered, Step later (.begun next) entered) ∧
                  ∀ {event entered}, Step later event entered → event.caller? = some next →
                    event = .begun next
  /-- A step of a call changes nothing of other names. -/
  elsewhere : ∀ {event call later visit name}, Step traffic event later →
    event.caller? = some call → later.visits call = some visit → name ≠ visit.name →
      later.cache.get? name = traffic.cache.get? name
  /-- The size is the number of names that have a handle. -/
  size : ∃ names : Finset String, (∀ name, name ∈ names ↔ (traffic.cache.get? name).isSome) ∧
    traffic.cache.size = names.card
  /-- A creation gives its handle to its caller, and to its name if there was no clear since the
  lookup; otherwise no name has it. -/
  made : ∀ {call handle later}, Step traffic (.made call handle) later →
    ∃ visit, later.visits call = some visit ∧ visit.stage = .made handle ∧
      (∀ name, later.cache.get? name =
        if name = visit.name ∧ visit.round = traffic.clears then some handle
        else traffic.cache.get? name) ∧
      (visit.round ≠ traffic.clears → later.cache.size = traffic.cache.size)
  /-- A call that finds or creates while no other one creates in its slot is a run of its steps,
  with the steps that its creation leads the cache through between them. -/
  called : ∀ {δ : Type} {place : Cell δ (ContainerCache η)} {name create} {world : World δ} {call},
    place.Lawful → place.read world.state = traffic.cache → traffic.visits call = none →
      traffic.Quiet name →
      (∀ {start}, Run traffic [.looked call name, .begun call] start →
        start.cache = place.read (ContainerCache.slotting place name world).state →
          ∃ events inner, Run start events inner ∧
            inner.cache = place.read
              (Action.on create (ContainerCache.slotting place name world)).2.state ∧
            inner.visits call = start.visits call) →
      ∃ events later, Run traffic events later ∧
        later.cache =
          place.read (Action.on (ContainerCache.getOrCreate place name create) world).2.state ∧
        ∃ visit, later.visits call = some visit ∧ visit.stage.result? =
          some (Action.on (ContainerCache.getOrCreate place name create) world).1

theorem Run.failed_mem (run : Run ({} : CacheTraffic ι η) events traffic)
    (present : traffic.visits call = some visit) (failed : visit.stage = .failed fault) :
    .failed call fault ∈ events := by
  induction run generalizing visit with
  | nil => cases present
  | snoc _ step inductionHypothesis =>
      rw [List.mem_append, List.mem_singleton]
      rcases of_visits_step step present with kept | ⟨own, brings, -⟩
      · exact .inl (inductionHypothesis kept failed)
      · rw [failed] at brings
        exact .inr (Event.eq_failed_of_brings own brings).symm

namespace Orderly

omit [DecidableEq ι] in
/-- Companions share a slot. -/
theorem index_of_companions (orderly : traffic.Orderly) {other : ι} {otherVisit : Visit η}
    (present : traffic.visits call = some visit)
    (otherPresent : traffic.visits other = some otherVisit)
    (companions : visit.Companions otherVisit.toTicket) : visit.index = otherVisit.index :=
  (orderly.index_eq_iff (ticket?_of_visits present) (ticket?_of_visits otherPresent)).mpr companions

omit [DecidableEq ι] in
theorem exists_maker (orderly : traffic.Orderly) (present : traffic.visits call = some visit)
    (returned : visit.stage.result? = some (.ok handle)) : ∃ maker makerVisit,
      traffic.visits maker = some makerVisit ∧ makerVisit.Companions visit.toTicket ∧
        makerVisit.stage = .made handle := by
  obtain ⟨maker, makerVisit, makerPresent, shared, made⟩ :=
    orderly.maker (orderly.returned present returned)
  exact ⟨maker, makerVisit, makerPresent, (orderly.index_eq_iff (ticket?_of_visits makerPresent)
    (ticket?_of_visits present)).mp shared, made⟩

omit [DecidableEq ι] in
theorem handle_unique (orderly : traffic.Orderly) {other : ι} {otherVisit : Visit η}
    {otherHandle : η} (present : traffic.visits call = some visit)
    (otherPresent : traffic.visits other = some otherVisit)
    (companions : visit.Companions otherVisit.toTicket)
    (returned : visit.stage.result? = some (.ok handle))
    (otherReturned : otherVisit.stage.result? = some (.ok otherHandle)) :
    otherHandle = handle := by
  have filled := orderly.returned present returned
  have otherFilled := orderly.returned otherPresent otherReturned
  rw [orderly.index_of_companions present otherPresent companions, otherFilled] at filled
  exact Option.some.inj filled

omit [DecidableEq ι] in
theorem not_creating_of_made (orderly : traffic.Orderly) {other : ι} {otherVisit : Visit η}
    (present : traffic.visits call = some visit)
    (otherPresent : traffic.visits other = some otherVisit)
    (companions : visit.Companions otherVisit.toTicket) (made : visit.stage = .made handle) :
    otherVisit.stage ≠ .creating := by
  intro creates
  have filled := orderly.returned present (by rw [made]; rfl)
  rw [orderly.index_of_companions present otherPresent companions,
    orderly.empty otherPresent creates] at filled
  cases filled

theorem of_failed (step : Step traffic (.failed call fault) later) :
    (∃ visit, later.visits call = some visit ∧ visit.stage = .failed fault) ∧
      (∀ other, other ≠ call → later.visits other = traffic.visits other) ∧
        (∀ name, later.cache.get? name = traffic.cache.get? name) ∧
          later.cache.size = traffic.cache.size := by
  cases step with
  | fail fault present creates =>
      exact ⟨⟨_, visits_moved_self .., rfl⟩, fun other different => visits_moved_of_ne different ..,
        fun name => rfl, rfl⟩

theorem of_made (orderly : traffic.Orderly) (step : Step traffic (.made call handle) later) :
    ∃ visit, later.visits call = some visit ∧ visit.stage = .made handle ∧
      (∀ name, later.cache.get? name =
        if name = visit.name ∧ visit.round = traffic.clears then some handle
        else traffic.cache.get? name) ∧
      (visit.round ≠ traffic.clears → later.cache.size = traffic.cache.size) := by
  cases step with
  | @succeed _ visit handle present creates =>
      have seen := orderly.get?_succeed present creates handle
      refine ⟨_, visits_moved_self .., rfl, seen, fun outlived => ?_⟩
      refine ContainerCache.size_congr (ContainerCache.slots_fill ..) fun name => ?_
      exact (seen name).trans (if_neg fun both => outlived both.2)

end Orderly

/-- Every run of calls of a cache that was empty memoizes, however their steps interleave. -/
theorem Run.memoizes (run : Run ({} : CacheTraffic ι η) events traffic) :
    traffic.Memoizes events := by
  have orderly : traffic.Orderly := Orderly.initial.run run
  constructor
  · exact fun run filled => orderly.filling_run run filled
  · intro call other visit otherVisit handle otherHandle present otherPresent companions
    exact orderly.maker_unique present otherPresent
      (orderly.index_of_companions present otherPresent companions)
  · exact orderly.not_creating_of_made
  · intro call visit handle present returned
    obtain ⟨maker, makerVisit, makerPresent, companions, made⟩ :=
      orderly.exists_maker present returned
    exact ⟨maker, makerVisit, makerPresent, companions, made, fun otherPresent others =>
      orderly.handle_unique present otherPresent others returned⟩
  · exact run.failed_mem
  · exact Orderly.of_failed
  · intro call fault failed visit after later next nextVisit step present rerun nextPresent waits
      named follows unbegun
    have untouched := orderly.untouched_of_failed step present follows
    have stillUntouched := untouched.run rerun fun begun given both => by
      obtain ⟨otherVisit, otherPresent, rfl⟩ := Option.map_eq_some_iff.mp given
      exact unbegun begun otherPresent ⟨both.1.trans named.symm, both.2⟩
    rw [← named] at stillUntouched
    exact ((orderly.step step).run rerun).enters nextPresent waits stillUntouched
  · exact fun step own present different => orderly.get?_step step own present different
  · exact ContainerCache.exists_size_eq_card orderly.nodup
  · exact orderly.of_made
  · exact fun lawful reads idle => exists_run_getOrCreate lawful orderly reads idle

/-- A creation fails, another call creates instead while the cache is cleared, and a third one
creates anew. -/
def failureThenClear : List (Event (Fin 3) Nat) :=
  [.looked 0 "t", .looked 1 "t", .begun 0, .failed 0 (.depot (.containerMissing "t")), .begun 1,
    .cleared, .made 1 7, .looked 2 "t", .begun 2, .made 2 8]

theorem Run.memoizes_failureThenClear : ∃ traffic, Run {} failureThenClear traffic ∧
    traffic.Memoizes failureThenClear ∧ traffic.cache.get? "t" = some 8 ∧
      (traffic.visits 1).bind (fun visit => visit.stage.result?) = some (.ok 7) := by
  have run : ∃ traffic, Run {} failureThenClear traffic ∧ traffic.cache.get? "t" = some 8 ∧
      (traffic.visits 1).bind (fun visit => visit.stage.result?) = some (.ok 7) := by
    refine ⟨_, .snoc (.snoc (.snoc (.snoc (.snoc (.snoc (.snoc (.snoc (.snoc (.snoc .nil
      (.look "t" rfl)) (.look "t" rfl)) (.enter rfl rfl rfl ?_)) (.fail _ rfl rfl))
      (.enter rfl rfl rfl ?_)) .clear) (.succeed 7 rfl rfl)) (.look "t" rfl))
      (.enter rfl rfl rfl ?_)) (.succeed 8 rfl rfl), rfl, rfl⟩
    -- Nobody creates when a creation begins: every call waits, failed, or is done.
    all_goals
      intro other present given _
      match other with
      | 0 | 1 | 2 => cases given <;> nofun
  obtain ⟨traffic, run, found, served⟩ := run
  exact ⟨traffic, run, run.memoizes, found, served⟩

end Memoizes

end CacheTraffic

end PayloadDepot
