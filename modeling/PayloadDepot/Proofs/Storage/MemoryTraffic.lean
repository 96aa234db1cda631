import PayloadDepot.Proofs.Storage.CacheTraffic
import PayloadDepot.Proofs.Storage.MemoryTally

/-!
# Traffic of memory depots

Many callers use a memory depot at once.  Each of their calls takes a few steps,
every one of which looks at or changes one part of the depot: a check-in looks
up its slot of the cache, reads the containers, creates one, fills the slot and
puts its payload into the container that it holds; a check-out reads first the
containers and then the payloads; closing marks the depot and then clears the
cache.  The steps of all calls may come in any order.  No handle to a container
ever becomes stale, in the cache or in the hands of a call, so the depot tallies
with what was stored and keeps every payload.
-/

namespace PayloadDepot

namespace MemoryDepot

/-- The container and the name that a reference leads to. -/
def seek (depot : MemoryDepot) (reference : Reference) : Except Fault (Nat × String) := do
  let (topic, name) ← reference.locate scheme
  match depot.container? topic with
  | none => .error (.depot (.containerMissing topic))
  | some container => .ok (container, name)

/-- The payload under a name that a reference led to. -/
def fetch (depot : MemoryDepot) (reference : Reference) (container : Nat) (name : String) :
    Except Fault ByteArray :=
  match depot.payload? container name with
  | some payload => .ok payload
  | none => .error (.depot (.claimMissing reference.text))

/-- Finding is seeking and then fetching. -/
theorem find_eq (depot : MemoryDepot) (reference : Reference) :
    depot.find reference =
      (depot.seek reference).bind fun place => depot.fetch reference place.1 place.2 := by
  rw [find, seek]
  cases reference.locate scheme with
  | error fault => rfl
  | ok place =>
      simp only [bind, Except.bind]
      cases depot.container? place.1 <;> rfl

/-- A later depot has the containers of an earlier one and at least its payloads. -/
structure Grows (later depot : MemoryDepot) : Prop where
  container? : ∀ {topic container}, depot.container? topic = some container →
    later.container? topic = some container
  payload? : ∀ {container name payload}, depot.payload? container name = some payload →
    later.payload? container name = some payload

theorem Grows.refl (depot : MemoryDepot) : depot.Grows depot :=
  ⟨id, id⟩

theorem Grows.trans {depot middle later : MemoryDepot} (second : later.Grows middle)
    (first : middle.Grows depot) : later.Grows depot where
  container? has := second.container? (first.container? has)
  payload? lies := second.payload? (first.payload? lies)

theorem Extends.grows {later depot : MemoryDepot} (extending : later.Extends depot) :
    later.Grows depot where
  container? has := extending.container? has
  payload? lies := (extending.payload? _ _).trans lies

theorem Grows.keeps {later depot : MemoryDepot} (grows : later.Grows depot) :
    later.Keeps depot := by
  intro reference payload found
  obtain ⟨topic, name, container, located, has, lies⟩ := (find_eq_ok_iff _ _ _).mp found
  exact (find_eq_ok_iff _ _ _).mpr
    ⟨topic, name, container, located, grows.container? has, grows.payload? lies⟩

theorem Tallied.grows_insert {depot : MemoryDepot} {stores : List (String × String)}
    (tallied : depot.Tallied stores) {topic name : String} {container : Nat}
    (has : depot.container? topic = some container) (unused : name ∉ stores.map Prod.snd)
    (payload : ByteArray) : (depot.insert container name payload).Grows depot where
  container? := id
  payload? {place other stored} lies := by
    have different : other ≠ name := by
      rintro rfl
      exact unused (tallied.named lies)
    rw [payload?_insert (tallied.bounded has), if_neg (fun both => different both.2), lies]

end MemoryDepot

namespace MemoryTraffic

/-- How far a call has come. -/
inductive Activity where
  | idle
  | opening (topic : String) (payload : ByteArray)
  | searching (topic : String) (payload : ByteArray)
  | missing (topic : String) (payload : ByteArray)
  | refusing (topic : String)
  | having (topic : String) (payload : ByteArray) (container : Nat)
  | storing (topic : String) (payload : ByteArray) (container : Nat)
  | checkedIn (topic : String) (payload : ByteArray) (reference : Reference)
  | refused (fault : Fault)
  | fetching (reference : Reference) (container : Nat) (name : String)
  | checkedOut (reference : Reference) (outcome : Except Fault ByteArray)
  | closing
  | closed

/-- What becomes of a check-in whose stream was read. -/
def Activity.ofRead (topic : String) : Except Fault ByteArray → Activity
  | .ok payload => .opening topic payload
  | .error fault => .refused fault

/-- What becomes of a check-out that has read the containers. -/
def Activity.ofSeek (reference : Reference) : Except Fault (Nat × String) → Activity
  | .ok (container, name) => .fetching reference container name
  | .error fault => .checkedOut reference (.error fault)

inductive Event (ι : Type) where
  | moved (call : ι)
  | stored (call : ι) (topic name : String)
  | created (topic : String)

variable {ι : Type}

def Event.caller? : Event ι → Option ι
  | moved call | stored call _ _ => some call
  | created _ => none

def Event.store? : Event ι → Option (String × String)
  | stored _ topic name => some (topic, name)
  | moved _ | created _ => none

/-- What is stored after an event, behind what was stored before. -/
def Event.record (before : List (String × String)) : Event ι → List (String × String)
  | stored _ topic name => before ++ [(topic, name)]
  | moved _ | created _ => before

end MemoryTraffic

open MemoryTraffic

/-- A memory depot with the calls that use it. -/
structure MemoryTraffic (ι : Type) where
  depot : MemoryDepot := {}
  clears : Nat := 0
  visits : ι → Option (CacheTraffic.Visit Nat) := fun _ => none
  calls : ι → Activity := fun _ => .idle

namespace MemoryTraffic

variable {ι : Type}

/-- The cache of the depot with the calls that use it. -/
def caching (traffic : MemoryTraffic ι) : CacheTraffic ι Nat where
  cache := traffic.depot.cache
  clears := traffic.clears
  visits := traffic.visits

def cached (traffic : MemoryTraffic ι) (caching : CacheTraffic ι Nat) : MemoryTraffic ι where
  depot := traffic.depot.withCache caching.cache
  clears := caching.clears
  visits := caching.visits
  calls := traffic.calls

def withDepot (traffic : MemoryTraffic ι) (depot : MemoryDepot) : MemoryTraffic ι :=
  { traffic with depot := depot }

section Steps

variable [DecidableEq ι]

def moved (traffic : MemoryTraffic ι) (call : ι) (activity : Activity) : MemoryTraffic ι :=
  { traffic with calls := Function.update traffic.calls call activity }

/-- One step of one call.  A stream belongs to its caller alone, so it is read in one step. -/
inductive Step (traffic : MemoryTraffic ι) : Event ι → MemoryTraffic ι → Prop
  | receive {call : ι} (idle : traffic.calls call = .idle) (topic : String)
      (payload : ByteArray) :
      Step traffic (.moved call) (traffic.moved call (.opening topic payload))
  | receiveStream {δ : Type} {call : ι} (idle : traffic.calls call = .idle) (topic : String)
      (source : StreamHandle) (length : Nat) (world : World δ) :
      Step traffic (.moved call) (traffic.moved call
        (.ofRead topic (Action.on (Depot.readDeclared source length) world).1))
  | look {call : ι} {topic : String} {payload : ByteArray} {caching : CacheTraffic ι Nat}
      (opens : traffic.calls call = .opening topic payload)
      (looks : traffic.caching.Step (.looked call topic) caching) :
      Step traffic (.moved call) (traffic.cached caching)
  | find {call : ι} {topic : String} {payload : ByteArray} {caching : CacheTraffic ι Nat}
      {visit : CacheTraffic.Visit Nat} {container : Nat}
      (opens : traffic.calls call = .opening topic payload)
      (finds : traffic.caching.Step (.found call) caching)
      (present : caching.visits call = some visit) (found : visit.stage = .found container) :
      Step traffic (.moved call)
        ((traffic.cached caching).moved call (.storing topic payload container))
  | enter {call : ι} {topic : String} {payload : ByteArray} {caching : CacheTraffic ι Nat}
      (opens : traffic.calls call = .opening topic payload)
      (enters : traffic.caching.Step (.begun call) caching) :
      Step traffic (.moved call)
        ((traffic.cached caching).moved call (.searching topic payload))
  | hit {call : ι} {topic : String} {payload : ByteArray} {container : Nat}
      (searches : traffic.calls call = .searching topic payload)
      (has : traffic.depot.container? topic = some container) :
      Step traffic (.moved call) (traffic.moved call (.having topic payload container))
  | miss {call : ι} {topic : String} {payload : ByteArray}
      (searches : traffic.calls call = .searching topic payload)
      (missing : traffic.depot.container? topic = none)
      (creates : traffic.depot.createsContainers = true) :
      Step traffic (.moved call) (traffic.moved call (.missing topic payload))
  | lack {call : ι} {topic : String} {payload : ByteArray}
      (searches : traffic.calls call = .searching topic payload)
      (missing : traffic.depot.container? topic = none)
      (creates : traffic.depot.createsContainers = false) :
      Step traffic (.moved call) (traffic.moved call (.refusing topic))
  | create {call : ι} {topic : String} {payload : ByteArray}
      (misses : traffic.calls call = .missing topic payload) :
      Step traffic (.moved call)
        ((traffic.withDepot (traffic.depot.create topic).2).moved call
          (.having topic payload (traffic.depot.create topic).1.1))
  | fill {call : ι} {topic : String} {payload : ByteArray} {container : Nat}
      {caching : CacheTraffic ι Nat} (has : traffic.calls call = .having topic payload container)
      (fills : traffic.caching.Step (.made call container) caching) :
      Step traffic (.moved call)
        ((traffic.cached caching).moved call (.storing topic payload container))
  | fail {call : ι} {topic : String} {caching : CacheTraffic ι Nat}
      (refuses : traffic.calls call = .refusing topic)
      (fails : traffic.caching.Step (.failed call (.depot (.containerMissing topic))) caching) :
      Step traffic (.moved call)
        ((traffic.cached caching).moved call (.refused (.depot (.containerMissing topic))))
  | insert {call : ι} {topic : String} {payload : ByteArray} {container : Nat}
      (stores : traffic.calls call = .storing topic payload container) (name : String) :
      Step traffic (.stored call topic name)
        ((traffic.withDepot (traffic.depot.insert container name payload)).moved call
          (.checkedIn topic payload (.compose MemoryDepot.scheme topic name)))
  | seek {call : ι} (idle : traffic.calls call = .idle) (reference : Reference) :
      Step traffic (.moved call)
        (traffic.moved call (.ofSeek reference (traffic.depot.seek reference)))
  | fetch {call : ι} {reference : Reference} {container : Nat} {name : String}
      (fetches : traffic.calls call = .fetching reference container name) :
      Step traffic (.moved call) (traffic.moved call
        (.checkedOut reference (traffic.depot.fetch reference container name)))
  | createContainer (topic : String) :
      Step traffic (.created topic) (traffic.withDepot (traffic.depot.create topic).2)
  | shut {call : ι} (idle : traffic.calls call = .idle) (isOpen : traffic.depot.closed = false) :
      Step traffic (.moved call)
        ((traffic.withDepot { traffic.depot with closed := true }).moved call .closing)
  | clear {call : ι} {caching : CacheTraffic ι Nat} (closes : traffic.calls call = .closing)
      (clears : traffic.caching.Step .cleared caching) :
      Step traffic (.moved call) ((traffic.cached caching).moved call .closed)
  | shutAgain {call : ι} (idle : traffic.calls call = .idle)
      (isClosed : traffic.depot.closed = true) :
      Step traffic (.moved call) (traffic.moved call .closed)

/-- Steps of the calls, one after the other. -/
abbrev Run : MemoryTraffic ι → List (Event ι) → MemoryTraffic ι → Prop :=
  LabelledRun Step

end Steps

section Safe

/-- A call holds at most the slot of a topic. -/
def Asks (traffic : MemoryTraffic ι) (call : ι) (topic : String) : Prop :=
  ∀ visit, traffic.visits call = some visit → visit.name = topic

/-- What a call has in hand is what the depot has. -/
def Holds (traffic : MemoryTraffic ι) (call : ι) : Activity → Prop
  | .idle => traffic.visits call = none
  | .opening topic _ | .searching topic _ | .missing topic _ | .refusing topic =>
      traffic.Asks call topic
  | .having topic _ container =>
      traffic.Asks call topic ∧ traffic.depot.container? topic = some container
  | .storing topic _ container => traffic.depot.container? topic = some container
  | .checkedIn topic payload reference => ∃ container name,
      reference = .compose MemoryDepot.scheme topic name ∧
        traffic.depot.container? topic = some container ∧
          traffic.depot.payload? container name = some payload
  | .refused _ | .fetching _ _ _ | .checkedOut _ _ | .closing | .closed => True

/-- The depot tallies with what was stored, and neither the cache nor a call has a stale handle. -/
structure Safe (traffic : MemoryTraffic ι) (stores : List (String × String)) : Prop where
  orderly : traffic.caching.Orderly
  tallied : traffic.depot.Tallied stores
  made : ∀ {call visit container}, traffic.visits call = some visit →
    visit.stage = .made container → traffic.depot.container? visit.name = some container
  holds : ∀ call, traffic.Holds call (traffic.calls call)

theorem safe_initial (creates : Bool) :
    Safe ({ depot := { createsContainers := creates } } : MemoryTraffic ι) [] where
  orderly := CacheTraffic.Orderly.initial
  tallied := MemoryDepot.tallied_empty creates
  made given := by cases given
  holds _ := rfl

variable {traffic later : MemoryTraffic ι} {stores : List (String × String)}

theorem Holds.mono {call : ι} {activity : Activity} (holds : traffic.Holds call activity)
    (kept : later.visits call = traffic.visits call) (grows : later.depot.Grows traffic.depot) :
    later.Holds call activity := by
  have asks {topic : String} (asked : traffic.Asks call topic) : later.Asks call topic := by
    rw [Asks, kept]
    exact asked
  cases activity with
  | idle => exact kept.trans holds
  | opening topic _ | searching topic _ | missing topic _ | refusing topic => exact asks holds
  | having topic payload container => exact ⟨asks holds.1, grows.container? holds.2⟩
  | storing topic payload container => exact grows.container? holds
  | checkedIn topic payload reference =>
      obtain ⟨container, name, composed, has, lies⟩ := holds
      exact ⟨container, name, composed, grows.container? has, grows.payload? lies⟩
  | refused _ | fetching _ _ _ | checkedOut _ _ | closing | closed => trivial

namespace Safe

/-- A container that fills the slot of a visit is that of its topic. -/
theorem container?_of_filling (safe : traffic.Safe stores) {call : ι}
    {visit : CacheTraffic.Visit Nat} {container : Nat}
    (present : traffic.visits call = some visit)
    (filled : traffic.depot.cache.filling visit.index = some container) :
    traffic.depot.container? visit.name = some container := by
  obtain ⟨maker, makerVisit, makerPresent, shared, made⟩ := safe.orderly.maker filled
  have companions := (safe.orderly.index_eq_iff (CacheTraffic.ticket?_of_visits makerPresent)
    (CacheTraffic.ticket?_of_visits present)).mp shared
  have named : makerVisit.name = visit.name := companions.1
  rw [← named]
  exact safe.made makerPresent made

/-- What the cache has for a topic is the container of the topic. -/
theorem cached_container (safe : traffic.Safe stores) {topic : String} {container : Nat}
    (cached : traffic.depot.cache.get? topic = some container) :
    traffic.depot.container? topic = some container := by
  obtain ⟨index, slotted, filled⟩ := Option.bind_eq_some_iff.mp cached
  obtain ⟨maker, visit, present, rfl, made⟩ := safe.orderly.maker filled
  have named := ((safe.orderly.slot_iff (CacheTraffic.ticket?_of_visits present) topic).mp
    slotted).1
  rw [named]
  exact safe.made present made

theorem sound (safe : traffic.Safe stores) : traffic.depot.Sound where
  separate := safe.orderly.separate
  cached := safe.cached_container
  bounded := safe.tallied.bounded

theorem withDepot (safe : traffic.Safe stores) (depot : MemoryDepot)
    {later : List (String × String)} (cache : depot.cache = traffic.depot.cache)
    (tallied : depot.Tallied later) (grows : depot.Grows traffic.depot) :
    (traffic.withDepot depot).Safe later where
  orderly := by
    have caching : (traffic.withDepot depot).caching = traffic.caching := by
      rw [MemoryTraffic.caching, MemoryTraffic.withDepot, cache]
      rfl
    rw [caching]
    exact safe.orderly
  tallied := tallied
  made present made := grows.container? (safe.made present made)
  holds call := (safe.holds call).mono rfl grows

variable [DecidableEq ι]

theorem moved (safe : traffic.Safe stores) {call : ι} {activity : Activity}
    (holds : traffic.Holds call activity) : (traffic.moved call activity).Safe stores where
  orderly := safe.orderly
  tallied := safe.tallied
  made := safe.made
  holds other := by
    have kept {told : Activity} (held : traffic.Holds other told) :
        (traffic.moved call activity).Holds other told := held.mono rfl (.refl _)
    by_cases same : other = call
    · subst same
      simp only [MemoryTraffic.moved, Function.update_self]
      exact kept holds
    · simp only [MemoryTraffic.moved, Function.update_of_ne same]
      exact kept (safe.holds other)

/-- A step of the cache keeps a depot safe if a lookup is for the topic of its call and a creation
makes what the depot has. -/
theorem cached (safe : traffic.Safe stores) {event : CacheTraffic.Event ι Nat}
    {caching : CacheTraffic ι Nat} (step : traffic.caching.Step event caching)
    (looks : ∀ {call topic}, event = .looked call topic →
      ∃ payload, traffic.calls call = .opening topic payload)
    (makes : ∀ {call container}, event = .made call container →
      ∃ topic payload, traffic.calls call = .having topic payload container) :
    (traffic.cached caching).Safe stores where
  orderly := safe.orderly.step step
  tallied := safe.tallied.congr rfl rfl rfl
  made {call visit container} present made := by
    rcases CacheTraffic.of_visits_step step present with kept | ⟨own, brings, before⟩
    · exact safe.made kept made
    · rw [made] at brings
      obtain rfl := CacheTraffic.Event.eq_made_of_brings own brings
      obtain ⟨topic, payload, having⟩ := makes rfl
      have held := safe.holds call
      rw [having] at held
      rcases before with looked | ⟨earlier, earlierPresent, ticket⟩
      · cases looked
      · have named : visit.name = topic := ticket ▸ held.1 earlier earlierPresent
        rw [named]
        exact held.2
  holds call := by
    -- No call loses its ticket, and one that had none gets that of its topic.
    have held := safe.holds call
    have asks {topic : String} (asked : traffic.Asks call topic)
        (looked : ∀ name, event = .looked call name → name = topic) :
        (traffic.cached caching).Asks call topic := by
      intro visit present
      rcases CacheTraffic.of_visits_step step present with
        kept | ⟨-, -, own | ⟨earlier, had, ticket⟩⟩
      · exact asked visit kept
      · exact looked _ own
      · exact ticket ▸ asked earlier had
    have looked {name : String} (own : event = .looked call name) := looks own
    change (traffic.cached caching).Holds call (traffic.calls call)
    cases told : traffic.calls call with
    | idle =>
        rw [told] at held looked
        cases present : caching.visits call with
        | none => exact present
        | some visit =>
            obtain ⟨payload, opens⟩ :=
              looked (CacheTraffic.of_visits_step_of_none step held present)
            cases opens
    | opening topic payload =>
        rw [told] at held looked
        refine asks held fun name own => ?_
        obtain ⟨payload, opens⟩ := looked own
        cases opens
        rfl
    | searching topic _ | missing topic _ | refusing topic =>
        rw [told] at held looked
        refine asks held fun name own => ?_
        obtain ⟨payload, opens⟩ := looked own
        cases opens
    | having topic payload container =>
        rw [told] at held looked
        refine ⟨asks held.1 fun name own => ?_, held.2⟩
        obtain ⟨payload, opens⟩ := looked own
        cases opens
    | storing topic payload container | checkedIn topic payload reference =>
        rw [told] at held
        exact held
    | refused _ | fetching _ _ _ | checkedOut _ _ | closing | closed => trivial

end Safe

end Safe

section Follows

/-- Which activity may follow another one, while a depot is what it is. -/
inductive Activity.Follows (depot : MemoryDepot) : Activity → Activity → Prop
  | receive (topic : String) (read : Except Fault ByteArray) :
      Follows depot .idle (.ofRead topic read)
  | find (topic : String) (payload : ByteArray) (container : Nat) :
      Follows depot (.opening topic payload) (.storing topic payload container)
  | enter (topic : String) (payload : ByteArray) :
      Follows depot (.opening topic payload) (.searching topic payload)
  | hit (topic : String) (payload : ByteArray) (container : Nat) :
      Follows depot (.searching topic payload) (.having topic payload container)
  | miss (topic : String) (payload : ByteArray) :
      Follows depot (.searching topic payload) (.missing topic payload)
  | lack (topic : String) (payload : ByteArray) :
      Follows depot (.searching topic payload) (.refusing topic)
  | create (topic : String) (payload : ByteArray) (container : Nat) :
      Follows depot (.missing topic payload) (.having topic payload container)
  | fill (topic : String) (payload : ByteArray) (container : Nat) :
      Follows depot (.having topic payload container) (.storing topic payload container)
  | fail (topic : String) (fault : Fault) : Follows depot (.refusing topic) (.refused fault)
  | insert (topic : String) (payload : ByteArray) (container : Nat) (reference : Reference) :
      Follows depot (.storing topic payload container) (.checkedIn topic payload reference)
  | seek (reference : Reference) :
      Follows depot .idle (.ofSeek reference (depot.seek reference))
  | fetch (reference : Reference) (container : Nat) (name : String) :
      Follows depot (.fetching reference container name)
        (.checkedOut reference (depot.fetch reference container name))
  | shut : Follows depot .idle .closing
  | clear : Follows depot .closing .closed
  | shutAgain : Follows depot .idle .closed

variable [DecidableEq ι] {traffic later : MemoryTraffic ι} {event : Event ι}

/-- A step changes what one call does at most, and that call goes on. -/
theorem of_calls_step (step : Step traffic event later) (call : ι) :
    later.calls call = traffic.calls call ∨
      event.caller? = some call ∧
        (traffic.calls call).Follows traffic.depot (later.calls call) := by
  -- Every step but two sets what its own call does next and leaves the others as they are.
  have update {other : ι} {activity : Activity}
      (follows : (traffic.calls other).Follows traffic.depot activity) :
      Function.update traffic.calls other activity call = traffic.calls call ∨
        some other = some call ∧ (traffic.calls call).Follows traffic.depot
          (Function.update traffic.calls other activity call) := by
    by_cases same : call = other
    · subst same
      rw [Function.update_self]
      exact .inr ⟨rfl, follows⟩
    · exact .inl (Function.update_of_ne same ..)
  cases step with
  | receive idle topic payload => exact update (idle ▸ .receive topic (.ok payload))
  | receiveStream idle topic source length world => exact update (idle ▸ .receive topic _)
  | look _ _ => exact .inl rfl
  | find opens _ _ _ => exact update (opens ▸ .find ..)
  | enter opens _ => exact update (opens ▸ .enter ..)
  | hit searches _ => exact update (searches ▸ .hit ..)
  | miss searches _ _ => exact update (searches ▸ .miss ..)
  | lack searches _ _ => exact update (searches ▸ .lack ..)
  | create misses => exact update (misses ▸ .create ..)
  | fill has _ => exact update (has ▸ .fill ..)
  | fail refuses _ => exact update (refuses ▸ .fail ..)
  | insert stores name => exact update (stores ▸ .insert ..)
  | seek idle reference => exact update (idle ▸ .seek reference)
  | fetch fetches => exact update (fetches ▸ .fetch ..)
  | createContainer topic => exact .inl rfl
  | shut idle _ => exact update (idle ▸ .shut)
  | clear closes _ => exact update (closes ▸ .clear)
  | shutAgain idle _ => exact update (idle ▸ .shutAgain)

end Follows

section Runs

variable [DecidableEq ι] {traffic later : MemoryTraffic ι} {event : Event ι}
  {stored : List (String × String)}

/-- A step under a new name keeps a depot safe and takes nothing away from it. -/
theorem Safe.step (safe : traffic.Safe stored) (step : Step traffic event later)
    (unused : ∀ {call topic name}, event = .stored call topic name →
      name ∉ stored.map Prod.snd) :
    later.Safe (event.record stored) ∧ later.depot.Grows traffic.depot := by
  have kept : traffic.depot.Grows traffic.depot := .refl _
  have cached (caching : CacheTraffic ι Nat) :
      (traffic.cached caching).depot.Grows traffic.depot :=
    (MemoryDepot.extends_withCache _ _).grows
  have grown (topic : String) : (traffic.depot.create topic).2.Grows traffic.depot :=
    (MemoryDepot.extends_create _ topic).grows
  have created (topic : String) : (traffic.withDepot (traffic.depot.create topic).2).Safe stored :=
    safe.withDepot _ (MemoryDepot.cache_create _ topic) (safe.tallied.create topic) (grown topic)
  have holds {call : ι} {activity : Activity} (now : traffic.calls call = activity) :
      traffic.Holds call activity := now ▸ safe.holds call
  cases step with
  | @receive call idle topic payload =>
      have nothing : traffic.visits call = none := holds idle
      exact ⟨safe.moved fun visit present => by simp [nothing] at present, kept⟩
  | @receiveStream δ call idle topic source length world =>
      have nothing : traffic.visits call = none := holds idle
      refine ⟨safe.moved ?_, kept⟩
      cases (Action.on (Depot.readDeclared source length) world).1 with
      | error fault => trivial
      | ok payload => exact fun visit present => by simp [nothing] at present
  | look opens looks =>
      refine ⟨safe.cached looks ?_ nofun, cached _⟩
      rintro call topic ⟨⟩
      exact ⟨_, opens⟩
  | @find call topic payload caching visit container opens finds present found =>
      have lookedUp := safe.cached finds nofun nofun
      have asks : (traffic.cached caching).Asks call topic := by
        have held := lookedUp.holds call
        rwa [show (traffic.cached caching).calls call = _ from opens] at held
      have filled := lookedUp.orderly.returned present (by rw [found]; rfl)
      have has := lookedUp.container?_of_filling present filled
      rw [asks visit present] at has
      exact ⟨lookedUp.moved has, cached _⟩
  | @enter call topic payload caching opens enters =>
      have entered := safe.cached enters nofun nofun
      have asks : (traffic.cached caching).Asks call topic := by
        have held := entered.holds call
        rwa [show (traffic.cached caching).calls call = _ from opens] at held
      exact ⟨entered.moved asks, cached _⟩
  | @hit call topic _ _ searches has =>
      have asks : traffic.Asks call topic := holds searches
      exact ⟨safe.moved ⟨asks, has⟩, kept⟩
  | @miss call topic _ searches _ _ =>
      have asks : traffic.Asks call topic := holds searches
      exact ⟨safe.moved asks, kept⟩
  | @lack call topic _ searches _ _ =>
      have asks : traffic.Asks call topic := holds searches
      exact ⟨safe.moved asks, kept⟩
  | @create call topic payload misses =>
      have asks : traffic.Asks call topic := holds misses
      exact ⟨(created topic).moved ⟨asks, MemoryDepot.container?_create _ topic⟩, grown topic⟩
  | @fill call topic payload container caching having fills =>
      have has := (holds having).2
      have filled := safe.cached fills nofun fun made => by
        cases made
        exact ⟨topic, payload, having⟩
      exact ⟨filled.moved has, cached _⟩
  | fail refuses fails => exact ⟨(safe.cached fails nofun nofun).moved trivial, cached _⟩
  | @insert call topic payload container stores name =>
      have has : traffic.depot.container? topic = some container := holds stores
      have isNew := unused rfl
      have grows := safe.tallied.grows_insert has isNew payload
      have inserted := safe.withDepot (traffic.depot.insert container name payload) rfl
        (safe.tallied.insert has isNew payload) grows
      refine ⟨inserted.moved ⟨container, name, rfl, has, ?_⟩, grows⟩
      exact (MemoryDepot.payload?_insert (safe.tallied.bounded has) ..).trans (if_pos ⟨rfl, rfl⟩)
  | seek idle reference =>
      refine ⟨safe.moved ?_, kept⟩
      cases traffic.depot.seek reference <;> trivial
  | fetch fetches => exact ⟨safe.moved trivial, kept⟩
  | createContainer topic => exact ⟨created topic, grown topic⟩
  | shut idle isOpen =>
      have marked := safe.withDepot { traffic.depot with closed := true } rfl
        (safe.tallied.congr rfl rfl rfl) ⟨id, id⟩
      exact ⟨marked.moved trivial, ⟨id, id⟩⟩
  | clear closes clears => exact ⟨(safe.cached clears nofun nofun).moved trivial, cached _⟩
  | shutAgain idle isClosed => exact ⟨safe.moved trivial, kept⟩

/-- The topics and names that payloads were stored under in some events. -/
def stores (events : List (Event ι)) : List (String × String) :=
  events.filterMap Event.store?

omit [DecidableEq ι] in
theorem append_stores_snoc (events : List (Event ι)) (event : Event ι) :
    stored ++ stores (events ++ [event]) = event.record (stored ++ stores events) := by
  cases event <;> simp [stores, Event.store?, Event.record, List.filterMap_append]

omit [DecidableEq ι] in
/-- If no name is stored twice, none is before the last event, and its name is new. -/
theorem distinct_snoc {events : List (Event ι)}
    (distinct : ((stored ++ stores (events ++ [event])).map Prod.snd).Nodup) :
    ((stored ++ stores events).map Prod.snd).Nodup ∧
      ∀ {call topic name}, event = .stored call topic name →
        name ∉ (stored ++ stores events).map Prod.snd := by
  rw [append_stores_snoc] at distinct
  cases event with
  | moved call => exact ⟨distinct, nofun⟩
  | created topic => exact ⟨distinct, nofun⟩
  | stored call topic name =>
      rw [Event.record, List.map_append, List.nodup_append] at distinct
      refine ⟨distinct.1, ?_⟩
      rintro call topic name ⟨⟩ earlier
      exact distinct.2.2 name earlier name (by simp) rfl

/-- A run in which no name is stored twice keeps a depot safe and takes nothing away from it. -/
theorem Safe.run {events : List (Event ι)} (safe : traffic.Safe stored)
    (run : Run traffic events later) (distinct : ((stored ++ stores events).map Prod.snd).Nodup) :
    later.Safe (stored ++ stores events) ∧ later.depot.Grows traffic.depot := by
  induction run with
  | nil => exact ⟨by simpa [stores] using safe, .refl _⟩
  | @snoc events event middle later run step inductionHypothesis =>
      obtain ⟨before, unused⟩ := distinct_snoc distinct
      obtain ⟨middleSafe, middleGrows⟩ := inductionHypothesis before
      obtain ⟨laterSafe, laterGrows⟩ := middleSafe.step step unused
      rw [append_stores_snoc]
      exact ⟨laterSafe, laterGrows.trans middleGrows⟩

end Runs

end MemoryTraffic

end PayloadDepot
