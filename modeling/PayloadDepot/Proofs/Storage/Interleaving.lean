import PayloadDepot.Proofs.Storage.MemoryTraffic
import PayloadDepot.Proofs.Storage.Redemption

/-!
# Memory depots under any interleaving

However the steps of many calls interleave, a memory depot creates one container
for a topic, caches none but that, and counts what was put into it.  A check-in
that fails has changed nothing that is stored.  What a check-in gave a reference
for is checked out under it from then on, also by calls whose steps come between
those of others.  Each operation of a depot is itself a run of such steps.
-/

namespace PayloadDepot

variable {δ ι : Type} [DecidableEq ι]

namespace MemoryTraffic

open MemoryDepot (Grows)

variable {traffic later : MemoryTraffic ι} {event : Event ι} {events : List (Event ι)}

section Refusals

/-- What is stored in a depot and what it counts, which the cache is no part of. -/
structure SameStore (later depot : MemoryDepot) : Prop where
  containers : later.containers = depot.containers
  blobs : later.blobs = depot.blobs
  creations : later.creations = depot.creations

/-- A check-in that has a container in hand cannot fail any more. -/
def Activity.Committed : Activity → Prop
  | .having _ _ _ | .storing _ _ _ | .checkedIn _ _ _ => True
  | _ => False

theorem Activity.Follows.committed {depot : MemoryDepot} {before after : Activity}
    (follows : before.Follows depot after) (committed : before.Committed) : after.Committed := by
  cases follows <;> first | exact trivial | exact committed.elim

theorem committed_step (step : Step traffic event later) {call : ι}
    (committed : (traffic.calls call).Committed) : (later.calls call).Committed := by
  rcases of_calls_step step call with kept | ⟨-, follows⟩
  · rwa [kept]
  · exact follows.committed committed

theorem committed_run (run : Run traffic events later) {call : ι}
    (committed : (traffic.calls call).Committed) : (later.calls call).Committed :=
  run.keeps committed fun step committed => committed_step step committed

/-- A step of a call that changes what is stored commits the call. -/
theorem sameStore_or_committed (step : Step traffic event later) {call : ι}
    (own : event.caller? = some call) :
    SameStore later.depot traffic.depot ∨ (later.calls call).Committed := by
  have same : SameStore traffic.depot traffic.depot := ⟨rfl, rfl, rfl⟩
  cases step with
  | create misses =>
      cases own
      exact .inr (by simp [moved, Activity.Committed])
  | insert stores name =>
      cases own
      exact .inr (by simp [moved, Activity.Committed])
  | createContainer topic => cases own
  | look _ _ | find _ _ _ _ | enter _ _ | fill _ _ | fail _ _ | shut _ _ | clear _ _ =>
      exact .inl ⟨rfl, rfl, rfl⟩
  | receive _ _ _ | receiveStream _ _ _ _ _ | hit _ _ | miss _ _ _ | lack _ _ _ | seek _ _
    | fetch _ | shutAgain _ _ => exact .inl same

end Refusals

section CheckOuts

/-- A check-out of a reference that has begun will end, or has ended, in a payload. -/
def Activity.Obtains (depot : MemoryDepot) (reference : Reference) (payload : ByteArray) :
    Activity → Prop
  | .fetching told container name =>
      told = reference → depot.payload? container name = some payload
  | .checkedOut told outcome => told = reference → outcome = .ok payload
  | _ => True

variable {depot after : MemoryDepot} {reference : Reference} {payload : ByteArray}
  {activity next : Activity}

theorem Activity.Obtains.mono (obtains : activity.Obtains depot reference payload)
    (grows : after.Grows depot) : activity.Obtains after reference payload := by
  cases activity with
  | fetching told container name => exact fun same => grows.payload? (obtains same)
  | checkedOut told outcome => exact obtains
  | _ => trivial

/-- While the reference leads to the payload, whatever a call does next obtains it. -/
theorem Activity.Follows.obtains (follows : activity.Follows depot next)
    (found : depot.find reference = .ok payload)
    (obtains : activity.Obtains depot reference payload) :
    next.Obtains depot reference payload := by
  rw [MemoryDepot.find_eq] at found
  cases follows with
  | receive topic read => cases read <;> trivial
  | seek told =>
      cases sought : depot.seek told with
      | error fault =>
          rintro rfl
          rw [sought] at found
          cases found
      | ok place =>
          obtain ⟨container, name⟩ := place
          rintro rfl
          rw [sought, Except.bind, MemoryDepot.fetch] at found
          split at found
          · next stored lies =>
            cases found
            exact lies
          · cases found
  | fetch told container name =>
      intro same
      rw [MemoryDepot.fetch, obtains same]
  | _ => trivial

/-- Calls that begin to check out once a reference leads to a payload obtain that. -/
theorem obtains_run {stored : List (String × String)} (safe : traffic.Safe stored)
    (run : Run traffic events later) (distinct : ((stored ++ stores events).map Prod.snd).Nodup)
    (found : traffic.depot.find reference = .ok payload) {call : ι}
    (idle : traffic.calls call = .idle) :
    (later.calls call).Obtains later.depot reference payload := by
  induction run with
  | nil =>
      rw [idle]
      trivial
  | @snoc events event middle later run step inductionHypothesis =>
      obtain ⟨before, unused⟩ := distinct_snoc distinct
      obtain ⟨middleSafe, middleGrows⟩ := safe.run run before
      have middleObtains := inductionHypothesis before
      have grows := (middleSafe.step step unused).2
      rcases of_calls_step step call with kept | ⟨-, follows⟩
      · rw [kept]
        exact middleObtains.mono grows
      · exact (follows.obtains (middleGrows.keeps _ _ found) middleObtains).mono grows

end CheckOuts

section Alone

open MemoryDepot (scheme)

variable {place : Cell δ MemoryDepot} {world : World δ} {call : ι} {topic : String}
  {payload : ByteArray}

/-- What a call that checks in comes to. -/
def Activity.ofCheckIn (topic : String) (payload : ByteArray) :
    Except Fault Reference → Activity
  | .ok reference => .checkedIn topic payload reference
  | .error fault => .refused fault

/-- Steps of one call only lead from one state to another. -/
def Alone (traffic : MemoryTraffic ι) (call : ι) (later : MemoryTraffic ι) : Prop :=
  ∃ events, Run traffic events later ∧ ∀ event ∈ events, event.caller? = some call

theorem Alone.single (step : Step traffic event later) (own : event.caller? = some call) :
    traffic.Alone call later :=
  ⟨_, .single step, by simp [own]⟩

theorem Alone.trans {middle : MemoryTraffic ι} (alone : traffic.Alone call middle)
    (aloneLater : middle.Alone call later) : traffic.Alone call later := by
  obtain ⟨events, run, own⟩ := alone
  obtain ⟨eventsLater, runLater, ownLater⟩ := aloneLater
  exact ⟨_, run.append runLater, List.forall_mem_append.mpr ⟨own, ownLater⟩⟩

theorem Alone.snoc {middle : MemoryTraffic ι} (alone : traffic.Alone call middle)
    (step : Step middle event later) (own : event.caller? = some call) :
    traffic.Alone call later :=
  alone.trans (.single step own)

/-- A check-in with its payload in hand whose steps no other call interrupts. -/
theorem exists_alone_opening {stored : List (String × String)} (safe : traffic.Safe stored)
    (opens : traffic.calls call = .opening topic payload) (idle : traffic.visits call = none)
    (quiet : traffic.caching.Quiet topic) (name : String) :
    ∃ later, traffic.Alone call later ∧
      match traffic.depot.opening topic with
      | (.ok container, opened) => later.depot = opened.insert container name payload ∧
          later.calls call = .checkedIn topic payload (.compose scheme topic name)
      | (.error fault, opened) => later.depot = opened ∧ later.calls call = .refused fault := by
  let looked := traffic.cached (traffic.caching.looked call topic)
  let visit : CacheTraffic.Visit Nat :=
    ⟨⟨topic, traffic.clears, (traffic.depot.cache.slot topic).1⟩, .waiting⟩
  have look : traffic.Alone call looked := .single (.look opens (.look topic idle)) rfl
  have present : looked.caching.visits call = some visit := Function.update_self ..
  have stillOpens : looked.calls call = .opening topic payload := opens
  have filling : looked.caching.cache.filling visit.index = traffic.depot.cache.get? topic :=
    ContainerCache.filling_slot _ _
  have storing {after : MemoryTraffic ι} {container : Nat} {opened : MemoryDepot}
      (alone : traffic.Alone call after)
      (stores : after.calls call = .storing topic payload container)
      (depot : after.depot = opened) :
      ∃ later, traffic.Alone call later ∧ later.depot = opened.insert container name payload ∧
        later.calls call = .checkedIn topic payload (.compose scheme topic name) :=
    ⟨_, alone.snoc (.insert stores name) rfl, depot ▸ rfl, Function.update_self ..⟩
  cases cached : traffic.depot.cache.get? topic with
  | some container =>
      rw [MemoryDepot.opening_of_cached cached]
      have finds := CacheTraffic.Step.find present rfl (filling.trans cached)
      exact storing
        (look.snoc (.find stillOpens finds (CacheTraffic.visits_moved_self ..) rfl) rfl)
        (Function.update_self ..) rfl
  | none =>
      have enters := CacheTraffic.Step.enter present rfl (filling.trans cached)
        (safe.orderly.alone_of_quiet idle quiet)
      have begun := look.snoc (.enter stillOpens enters) rfl
      have creates : (looked.caching.moved call visit .creating).visits call =
          some { visit with stage := .creating } := CacheTraffic.visits_moved_self ..
      have searches := Function.update_self call (.searching topic payload) looked.calls
      cases has : traffic.depot.container? topic with
      | some container =>
          rw [MemoryDepot.opening_of_container? cached has]
          have hit := begun.snoc (.hit searches has) rfl
          exact storing
            (hit.snoc (.fill (Function.update_self ..) (.succeed container creates rfl)) rfl)
            (Function.update_self ..) rfl
      | none =>
          cases policy : traffic.depot.createsContainers with
          | false =>
              rw [MemoryDepot.opening_of_missing cached has policy]
              have lack := begun.snoc (.lack searches has policy) rfl
              exact ⟨_, lack.snoc (.fail (Function.update_self ..) (.fail _ creates rfl)) rfl, rfl,
                Function.update_self ..⟩
          | true =>
              rw [MemoryDepot.opening_of_create cached has policy]
              have miss := begun.snoc (.miss searches has policy) rfl
              have made := miss.snoc (.create (Function.update_self ..)) rfl
              refine storing (made.snoc (.fill (Function.update_self ..)
                (.succeed _ creates rfl)) rfl) (Function.update_self ..) ?_
              change MemoryDepot.withCache _
                ((looked.depot.create topic).2.cache.fill visit.index _) = _
              rw [MemoryDepot.cache_create]
              rfl

/-- A check-out takes its two steps, or the first one if that fails. -/
theorem exists_alone_checkOut (reads : place.read world.state = traffic.depot)
    (idle : traffic.calls call = .idle) (reference : Reference) :
    ∃ later, traffic.Alone call later ∧
      later.depot = place.read
        (Action.on (MemoryDepot.checkOut place reference) world).2.state ∧
      later.calls call = .checkedOut reference
        (Action.on (MemoryDepot.checkOut place reference) world).1 := by
  have seek := Step.seek idle reference
  rw [MemoryDepot.on_checkOut, reads, MemoryDepot.find_eq]
  cases sought : traffic.depot.seek reference with
  | error fault =>
      rw [sought] at seek
      exact ⟨_, .single seek rfl, rfl, Function.update_self ..⟩
  | ok place =>
      rw [sought] at seek
      have sought : traffic.Alone call _ := .single seek rfl
      exact ⟨_, sought.snoc (.fetch (Function.update_self ..)) rfl, rfl, Function.update_self ..⟩

/-- Closing marks the depot and clears its cache. -/
theorem exists_alone_close (lawful : place.Lawful) (reads : place.read world.state = traffic.depot)
    (idle : traffic.calls call = .idle) :
    ∃ later, traffic.Alone call later ∧
      later.depot = place.read (Effect.on (MemoryDepot.close place) world).2.state ∧
      later.calls call = .closed := by
  obtain ⟨state, journal, read, ran⟩ := MemoryDepot.on_close lawful world
  rw [ran, World.progressed_state, read, reads, MemoryDepot.closing]
  cases closed : traffic.depot.closed with
  | true => exact ⟨_, .single (.shutAgain idle closed) rfl, rfl, Function.update_self ..⟩
  | false =>
      have shut : traffic.Alone call _ := .single (.shut idle closed) rfl
      exact ⟨_, shut.snoc (.clear (Function.update_self ..) .clear) rfl, rfl,
        Function.update_self ..⟩

variable {stored : List (String × String)} (lawful : place.Lawful) (safe : traffic.Safe stored)
  (reads : place.read world.state = traffic.depot) (idle : traffic.calls call = .idle)

include lawful safe reads idle

/-- A check-in that no other call interrupts is a run of its steps. -/
theorem exists_alone_checkIn (quiet : traffic.caching.Quiet topic) (payload : ByteArray) :
    ∃ later, traffic.Alone call later ∧
      later.depot = place.read
        (Action.on (MemoryDepot.checkIn place topic payload) world).2.state ∧
      later.calls call =
        .ofCheckIn topic payload (Action.on (MemoryDepot.checkIn place topic payload) world).1 := by
  have nothing : traffic.visits call = none := by
    have held := safe.holds call
    rwa [idle] at held
  have receive := Step.receive idle topic payload
  obtain ⟨later, alone, came⟩ := exists_alone_opening (safe.step receive nofun).1
    (Function.update_self ..) nothing quiet (world.nameSource world.namesIssued)
  refine ⟨later, .trans (.single receive rfl) alone, ?_⟩
  cases opens : traffic.depot.opening topic with
  | mk outcome opened =>
      rw [show (traffic.moved call (.opening topic payload)).depot = traffic.depot from rfl,
        opens] at came
      rw [← reads] at opens
      cases outcome with
      | ok container =>
          obtain ⟨state, journal, read, ran⟩ := MemoryDepot.on_checkIn_of_ok lawful opens payload
          rw [ran, World.progressed_state, read]
          exact came
      | error fault =>
          obtain ⟨state, journal, read, ran⟩ :=
            MemoryDepot.on_checkIn_of_error lawful opens payload
          rw [ran, World.progressed_state, read]
          exact came

/-- So is one of a stream, which is read before anything else. -/
theorem exists_alone_checkInStream (quiet : traffic.caching.Quiet topic) (source : StreamHandle)
    (length : Nat) :
    ∃ later, traffic.Alone call later ∧
      later.depot = place.read
        (Action.on (MemoryDepot.checkInStream place topic source length) world).2.state ∧
      ∃ payload, later.calls call = .ofCheckIn topic payload
        (Action.on (MemoryDepot.checkInStream place topic source length) world).1 := by
  have receive := Step.receiveStream idle topic source length world
  rcases Nat.lt_or_ge (source.available world).length length with short | enough
  · obtain ⟨fault, readers, read⟩ := Depot.on_readDeclared_of_lt short
    rw [read] at receive
    rw [MemoryDepot.checkInStream, Action.on_bind_of_error read]
    exact ⟨_, .single receive rfl, reads.symm, .empty, Function.update_self ..⟩
  · obtain ⟨payload, readers, read, -, -⟩ := Depot.on_readDeclared_of_le enough
    rw [MemoryDepot.checkInStream, Action.on_bind_of_ok read]
    have same : place.read (world.withReaders readers).state = traffic.depot := reads
    obtain ⟨later, alone, came⟩ := exists_alone_checkIn lawful safe same idle quiet payload
    exact ⟨later, alone, came.1, payload, came.2⟩

end Alone

section Dependable

/-- The names that payloads are stored under differ from each other and can stand in references. -/
structure ProperNames (events : List (Event ι)) : Prop where
  distinct : ((stores events).map Prod.snd).Nodup
  component : ∀ store ∈ stores events, Text.IsComponent store.2

/-- What is known of a depot and its calls after some events. -/
structure Dependable (traffic : MemoryTraffic ι) (events : List (Event ι)) : Prop where
  /-- The container of a topic is created once. -/
  created_once : ∀ topic, traffic.depot.creationCount topic =
    if (traffic.depot.container? topic).isSome then 1 else 0
  /-- The cache holds no other containers than the depot does. -/
  cached : ∀ {topic container}, traffic.depot.cache.get? topic = some container →
    traffic.depot.container? topic = some container
  /-- As many payloads are stored for a topic as were put into its container. -/
  counted : ∀ topic, traffic.depot.storedCount topic =
    (stores events).countP fun store => store.1 = topic
  /-- No step of a check-in that fails changes what is stored or counted. -/
  refused : ∀ {call fault before event after rest}, traffic.calls call = .refused fault →
    Step before event after → event.caller? = some call → Run after rest traffic →
      SameStore after.depot before.depot
  /-- What a check-in gave a reference for is handed out under it ever after, -/
  redeemed : ∀ {call topic payload reference rest later},
    traffic.calls call = .checkedIn topic payload reference → Text.IsComponent topic →
      Run traffic rest later → ProperNames (events ++ rest) →
        ∀ {δ : Type} {place : Cell δ MemoryDepot} {world : World δ},
          place.read world.state = later.depot →
            (MemoryDepot.depot place).Redeems reference payload world
  /-- also to a check-out that begins then, whatever comes between its steps. -/
  checkedOut : ∀ {call topic payload reference rest later other outcome},
    traffic.calls call = .checkedIn topic payload reference → Text.IsComponent topic →
      Run traffic rest later → ProperNames (events ++ rest) →
        traffic.calls other = .idle → later.calls other = .checkedOut reference outcome →
          outcome = .ok payload
  /-- A check-in that no other call interrupts is a run of its steps. -/
  checksIn : ∀ {δ : Type} {place : Cell δ MemoryDepot} {world : World δ} {call topic},
    place.Lawful → place.read world.state = traffic.depot → traffic.calls call = .idle →
      traffic.caching.Quiet topic → ∀ payload, ∃ later, traffic.Alone call later ∧
        later.depot = place.read
          (Action.on (MemoryDepot.checkIn place topic payload) world).2.state ∧
        later.calls call = .ofCheckIn topic payload
          (Action.on (MemoryDepot.checkIn place topic payload) world).1
  /-- So is one of a stream, -/
  checksInStream : ∀ {δ : Type} {place : Cell δ MemoryDepot} {world : World δ} {call topic},
    place.Lawful → place.read world.state = traffic.depot → traffic.calls call = .idle →
      traffic.caching.Quiet topic → ∀ source length, ∃ later, traffic.Alone call later ∧
        later.depot = place.read
          (Action.on (MemoryDepot.checkInStream place topic source length) world).2.state ∧
        ∃ payload, later.calls call = .ofCheckIn topic payload
          (Action.on (MemoryDepot.checkInStream place topic source length) world).1
  /-- and so are a check-out -/
  checksOut : ∀ {δ : Type} {place : Cell δ MemoryDepot} {world : World δ} {call},
    place.read world.state = traffic.depot → traffic.calls call = .idle →
      ∀ reference, ∃ later, traffic.Alone call later ∧
        later.depot = place.read
          (Action.on (MemoryDepot.checkOut place reference) world).2.state ∧
        later.calls call = .checkedOut reference
          (Action.on (MemoryDepot.checkOut place reference) world).1
  /-- and a closing. -/
  closes : ∀ {δ : Type} {place : Cell δ MemoryDepot} {world : World δ} {call},
    place.Lawful → place.read world.state = traffic.depot → traffic.calls call = .idle →
      ∃ later, traffic.Alone call later ∧
        later.depot = place.read (Effect.on (MemoryDepot.close place) world).2.state ∧
        later.calls call = .closed

omit [DecidableEq ι] in
/-- The reference of a check-in leads to its payload. -/
theorem Safe.find_of_checkedIn (safe : traffic.Safe (stores events)) {call : ι} {topic : String}
    {payload : ByteArray} {reference : Reference}
    (checkedIn : traffic.calls call = .checkedIn topic payload reference)
    (topicOk : Text.IsComponent topic)
    (components : ∀ store ∈ stores events, Text.IsComponent store.2) :
    traffic.depot.find reference = .ok payload := by
  have held := safe.holds call
  rw [checkedIn] at held
  obtain ⟨container, name, rfl, has, lies⟩ := held
  obtain ⟨store, stored, rfl⟩ := List.mem_map.mp (safe.tallied.named lies)
  exact (MemoryDepot.find_eq_ok_iff _ _ _).mpr ⟨topic, store.2, container,
    Reference.locate_compose _ topicOk (components store stored), has, lies⟩

omit [DecidableEq ι] in
theorem stores_append (first second : List (Event ι)) :
    stores (first ++ second) = stores first ++ stores second :=
  List.filterMap_append ..

/-- Whatever calls begin on an empty depot, and however their steps interleave, the depot is
dependable as long as no name is given twice. -/
theorem Run.dependable {creates : Bool}
    (run : Run { depot := { createsContainers := creates } } events traffic)
    (names : ProperNames events) : traffic.Dependable events := by
  have safe : traffic.Safe (stores events) := ((safe_initial creates).run run names.distinct).1
  constructor
  · exact safe.tallied.created
  · exact safe.cached_container
  · exact safe.tallied.stored
  · intro call fault before event after rest refused step own rerun
    rcases sameStore_or_committed step own with same | committed
    · exact same
    · have stays := committed_run rerun committed
      rw [refused] at stays
      exact stays.elim
  · intro call topic payload reference rest later checkedIn topicOk rerun allNames δ place world
      reads
    have found := safe.find_of_checkedIn checkedIn topicOk names.component
    have distinct := allNames.distinct
    rw [stores_append] at distinct
    rw [MemoryDepot.redeems_iff, reads]
    exact (safe.run rerun distinct).2.keeps _ _ found
  · intro call topic payload reference rest later other outcome checkedIn topicOk rerun allNames
      idle ended
    have found := safe.find_of_checkedIn checkedIn topicOk names.component
    have distinct := allNames.distinct
    rw [stores_append] at distinct
    have obtained := obtains_run safe rerun distinct found idle
    rw [ended] at obtained
    exact obtained rfl
  · exact fun lawful reads idle => exists_alone_checkIn lawful safe reads idle
  · exact fun lawful reads idle => exists_alone_checkInStream lawful safe reads idle
  · exact exists_alone_checkOut
  · exact exists_alone_close

/-- A call checks in while the container is created by another one and a second call closes the
depot. -/
def closedMeanwhile : List (Event (Fin 2)) :=
  [.moved 0, .moved 0, .moved 0, .moved 0, .created "t", .moved 1, .moved 1, .moved 0, .moved 0,
    .stored 0 "t" "n"]

theorem Run.dependable_closedMeanwhile : ∃ traffic,
    Run { depot := { createsContainers := true } } closedMeanwhile traffic ∧
      ProperNames closedMeanwhile ∧ traffic.Dependable closedMeanwhile ∧
        traffic.depot.cache.size = 0 ∧ traffic.depot.storedCount "t" = 1 ∧
          traffic.calls 0 = .checkedIn "t" ⟨#[1, 2]⟩ (.compose MemoryDepot.scheme "t" "n") := by
  have run : ∃ traffic,
      Run { depot := { createsContainers := true } } closedMeanwhile traffic ∧
        traffic.depot.cache.size = 0 ∧ traffic.depot.storedCount "t" = 1 ∧
          traffic.calls 0 = .checkedIn "t" ⟨#[1, 2]⟩ (.compose MemoryDepot.scheme "t" "n") := by
    refine ⟨_, .snoc (.snoc (.snoc (.snoc (.snoc (.snoc (.snoc (.snoc (.snoc (.snoc .nil
      (.receive rfl "t" ⟨#[1, 2]⟩)) (.look rfl (.look "t" rfl)))
      (.enter rfl (.enter rfl rfl rfl ?_)))
      (.miss rfl rfl rfl)) (.createContainer "t")) (.shut rfl rfl)) (.clear rfl .clear))
      (.create rfl)) (.fill rfl (.succeed _ rfl rfl))) (.insert rfl "n"), rfl, rfl, rfl⟩
    intro other present given _
    match other with
    | 0 | 1 => cases given <;> nofun
  obtain ⟨traffic, run, size, count, served⟩ := run
  have names : ProperNames closedMeanwhile := ⟨by decide, by decide⟩
  exact ⟨traffic, run, names, run.dependable names, size, count, served⟩

end Dependable

end MemoryTraffic

end PayloadDepot
