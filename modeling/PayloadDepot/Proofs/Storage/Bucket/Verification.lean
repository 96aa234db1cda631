import PayloadDepot.Proofs.Storage.Bucket.Transcript
import PayloadDepot.Proofs.Storage.BucketRuns

/-!
# How buckets are verified

A bucket is verified by looking whether it is there and, if it is missing and
the depot may, by creating it.  Either this succeeds with its last request, or
the bucket is not used.  A topic whose bucket the cache remembers is not
verified, and what is found out about another topic's bucket stays with that
topic.
-/

namespace PayloadDepot

/-- A request about a bucket as a whole. -/
def StoreRequest.asksForBucket : StoreRequest → Bool
  | headBucket _ => true
  | createBucket _ _ => true
  | _ => false

/-- The store told that a bucket is there: it was found, or it was created, or somebody else had
created it for the same owner. -/
inductive StoreExchange.Establishes (bucket : String) : StoreExchange → Prop
  | found (answer : StoreAnswer) : Establishes bucket ⟨.headBucket bucket, .ok answer⟩
  | created (location : Option String) (answer : StoreAnswer) :
      Establishes bucket ⟨.createBucket bucket location, .ok answer⟩
  | owned (location : Option String) : Establishes bucket
      ⟨.createBucket bucket location, .error (.refused "BucketAlreadyOwnedByYou")⟩

namespace BucketDepot

/-- How the creation of a bucket ends, and what is sent for it. -/
inductive Created (region bucket : String) : Except Fault Unit → Transcript → Prop
  | made (answer : StoreAnswer) : Created region bucket (.ok ())
      [⟨.createBucket bucket (locationConstraint region), .ok answer⟩]
  | owned : Created region bucket (.ok ())
      [⟨.createBucket bucket (locationConstraint region),
        .error (.refused "BucketAlreadyOwnedByYou")⟩]
  | refused (fault : StoreFault) (other : fault ≠ .refused "BucketAlreadyOwnedByYou") :
      Created region bucket (.error (.depotBy (.bucketNotCreated bucket) (.store fault)))
        [⟨.createBucket bucket (locationConstraint region), .error fault⟩]

/-- How the verification of a bucket ends, and what is sent for it. -/
inductive Verified (settings : StoreSettings) (bucket : String) :
    Except Fault Unit → Transcript → Prop
  | found (answer : StoreAnswer) :
      Verified settings bucket (.ok ()) [⟨.headBucket bucket, .ok answer⟩]
  | missing (forbidden : settings.createsBuckets = false) :
      Verified settings bucket (.error (.depot (.containerMissing bucket)))
        [⟨.headBucket bucket, .error (.refused "NotFound")⟩]
  | created {outcome : Except Fault Unit} {sent : Transcript}
      (allowed : settings.createsBuckets = true)
      (created : Created settings.region bucket outcome sent) :
      Verified settings bucket outcome
        (⟨.headBucket bucket, .error (.refused "NotFound")⟩ :: sent)
  | unchecked (fault : StoreFault) (other : fault ≠ .refused "NotFound") :
      Verified settings bucket (.error (.depotBy (.bucketNotChecked bucket) (.store fault)))
        [⟨.headBucket bucket, .error fault⟩]

section Sends

variable {δ : Type} {send : StoreChannel δ} {place : Cell δ BucketDepot}
  {settings : StoreSettings} {topic : String} {world : World (δ × Transcript)}

theorem sends_createBucket (region bucket : String) :
    (createBucket send.noting region bucket).Sends world fun outcome sent _ =>
      Created region bucket outcome sent := by
  refine .request_bind fun answer after _ => ?_
  cases answer with
  | ok answer => exact .silent rfl (.made answer)
  | error fault =>
      dsimp only
      split
      · next owned =>
        subst owned
        exact .pure .owned
      · next other => exact .fail (.refused fault other)

theorem sends_ensureBucket (settings : StoreSettings) (bucket : String) :
    (ensureBucket send.noting settings bucket).Sends world fun outcome sent _ =>
      Verified settings bucket outcome sent := by
  refine .request_bind fun answer after _ => ?_
  cases answer with
  | ok answer => exact .pure (.found answer)
  | error fault =>
      dsimp only
      split
      · next missing =>
        subst missing
        split
        · next allowed =>
          exact (sends_createBucket _ _).mono fun _ _ _ created => .created allowed created
        · next forbidden => exact .fail (.missing (Bool.eq_false_iff.mpr forbidden))
      · next other => exact .fail (.unchecked fault other)

/-- The bucket is given once it is verified. -/
theorem sends_ensured (settings : StoreSettings) (bucket : String) :
    Action.Sends (do ensureBucket send.noting settings bucket; return bucket) world
      fun outcome sent _ => ∃ verdict, Verified settings bucket verdict sent ∧
        outcome = verdict.map fun _ => bucket := by
  refine .bind (sends_ensureBucket settings bucket) ?_ ?_
  · intro fault sent _ verified
    exact ⟨_, verified, rfl⟩
  · intro _ sent _ verified
    exact .pure ⟨_, by rwa [List.append_nil], rfl⟩

end Sends

section Verified

variable {settings : StoreSettings} {bucket region : String} {outcome : Except Fault Unit}
  {sent : Transcript} {exchange : StoreExchange}

theorem Created.asksForBucket (created : Created region bucket outcome sent) :
    ∀ exchange ∈ sent, exchange.request.asksForBucket = true := by
  cases created <;> simp [StoreRequest.asksForBucket]

/-- Nothing is sent for the verification of a bucket but what asks for buckets. -/
theorem Verified.asksForBucket (verified : Verified settings bucket outcome sent) :
    ∀ exchange ∈ sent, exchange.request.asksForBucket = true := by
  cases verified with
  | created allowed created =>
      rw [List.forall_mem_cons]
      exact ⟨rfl, created.asksForBucket⟩
  | found | missing | unchecked => simp [StoreRequest.asksForBucket]

end Verified

section Bucket

variable {δ : Type} {send : StoreChannel δ} {place : Cell δ BucketDepot}
  {world : World (δ × Transcript)}

/-- Nothing is sent for the bucket of a topic but what asks for buckets. -/
theorem sends_bucket (place : Cell δ BucketDepot) (topic : String) :
    (bucket send.noting place.beside topic).Sends world fun _ sent _ =>
      ∀ exchange ∈ sent, exchange.request.asksForBucket = true := by
  refine .silent_bind rfl (.silent_bind rfl (.silent_bind rfl ?_))
  split
  · exact .pure (by simp)
  · refine .bind (sends_ensured _ _) ?_ ?_
    · rintro _ _ _ ⟨verdict, verified, -⟩
      exact verified.asksForBucket
    · rintro _ sent _ ⟨verdict, verified, -⟩
      exact .silent_bind rfl (.pure (by simpa using verified.asksForBucket))

/-- What a depot remembers: the topics whose buckets it knows. -/
structure Remembers (depot : BucketDepot) (settings : StoreSettings) (closed : Bool)
    (known : String → Prop) : Prop where
  configured : depot.settings = settings
  closed : depot.closed = closed
  separate : depot.cache.Separate
  cached : ∀ {topic name}, depot.cache.get? topic = some name ↔
    known topic ∧ name = settings.bucket topic

theorem remembers_initial (settings : StoreSettings) :
    Remembers { settings := settings } settings false fun _ => False where
  configured := rfl
  closed := rfl
  separate := ContainerCache.separate_empty
  cached := by simp

namespace Remembers

variable {depot : BucketDepot} {settings : StoreSettings} {closed : Bool}
  {known knownToo : String → Prop}

theorem congr (remembers : depot.Remembers settings closed known)
    (same : ∀ topic, knownToo topic ↔ known topic) :
    depot.Remembers settings closed knownToo where
  configured := remembers.configured
  closed := remembers.closed
  separate := remembers.separate
  cached := by
    intro topic name
    rw [same]
    exact remembers.cached

theorem slot (remembers : depot.Remembers settings closed known) (topic : String) :
    Remembers { depot with cache := (depot.cache.slot topic).2 } settings closed known where
  configured := remembers.configured
  closed := remembers.closed
  separate := remembers.separate.slot topic
  cached := by
    intro other name
    rw [remembers.separate.get?_slot]
    exact remembers.cached

/-- A depot that puts a bucket into the slot of its topic knows that topic too. -/
theorem fill (remembers : depot.Remembers settings closed known) {topic : String} {index : Nat}
    (slotted : depot.cache.slots.get? topic = some index) :
    Remembers { depot with cache := depot.cache.fill index (settings.bucket topic) } settings
      closed fun other => known other ∨ other = topic where
  configured := remembers.configured
  closed := remembers.closed
  separate := remembers.separate.fill index _
  cached := by
    intro other name
    rw [remembers.separate.get?_fill slotted]
    split
    · next same =>
      subst same
      have filling : (depot.cache.get? other).getD (settings.bucket other) =
          settings.bucket other := by
        cases found : depot.cache.get? other with
        | none => rw [Option.getD_none]
        | some handle =>
            rw [Option.getD_some]
            exact (remembers.cached.mp found).2
      rw [filling, Option.some.injEq]
      constructor
      · exact fun same => ⟨.inr rfl, same.symm⟩
      · exact fun told => told.2.symm
    · next different =>
      rw [remembers.cached]
      simp [different]

end Remembers

/-- How the bucket of a topic is obtained: it is known already, or it is verified. -/
inductive Obtained (settings : StoreSettings) (topic : String) (known : Prop) :
    Except Fault String → Transcript → Prop
  | remembered (knows : known) : Obtained settings topic known (.ok (settings.bucket topic)) []
  | verified (unknown : ¬ known) {verdict : Except Fault Unit} {sent : Transcript}
      (verified : Verified settings (settings.bucket topic) verdict sent) :
      Obtained settings topic known (verdict.map fun _ => settings.bucket topic) sent

section Obtained

variable {settings : StoreSettings} {topic : String} {known : Prop} {verdict : Except Fault String}
  {checks : Transcript}

theorem Obtained.bucket_eq {name : String}
    (obtained : Obtained settings topic known (.ok name) checks) :
    settings.bucket topic = name := by
  generalize same : Except.ok name = verdict at obtained
  cases obtained with
  | remembered => exact (Except.ok.inj same).symm
  | @verified unknown outcome _ verified =>
      cases outcome with
      | ok value => exact (Except.ok.inj same).symm
      | error fault => cases same

theorem Obtained.asksForBucket (obtained : Obtained settings topic known verdict checks) :
    ∀ exchange ∈ checks, exchange.request.asksForBucket = true := by
  cases obtained with
  | remembered => nofun
  | verified unknown verified => exact verified.asksForBucket

end Obtained

section Remembered

variable {settings : StoreSettings} {closed : Bool} {known : String → Prop} {topic : String}

theorem read_slotting (lawful : place.Lawful) (topic : String) :
    place.read (ContainerCache.slotting (cacheCell place.beside) topic world).state.1 =
      { place.read world.state.1 with
        cache := ((place.read world.state.1).cache.slot topic).2 } :=
  lawful _ _

/-- What a depot remembers once it has a slot for a topic, before it looks into the slot. -/
theorem Remembers.slotting (lawful : place.Lawful)
    (remembers : (place.read world.state.1).Remembers settings closed known) (topic : String) :
    (place.read (ContainerCache.slotting (cacheCell place.beside) topic world).state.1).Remembers
      settings closed known := by
  rw [read_slotting lawful]
  exact remembers.slot topic

theorem on_bucket_of_remembers
    (remembers : (place.read world.state.1).Remembers settings closed known) :
    Action.on (bucket send.noting place.beside topic) world =
      Action.on (ContainerCache.getOrCreate (cacheCell place.beside) topic do
        ensureBucket send.noting settings (settings.bucket topic)
        return settings.bucket topic) world := by
  have configured : (place.beside.read world.state).settings = settings := remembers.configured
  rw [bucket, Action.on_lift_bind, Cell.on_load]
  dsimp only
  rw [configured]

/-- Nothing is sent for a bucket that is known. -/
theorem sends_bucket_of_known (lawful : place.Lawful)
    (remembers : (place.read world.state.1).Remembers settings closed known)
    (knows : known topic) :
    (bucket send.noting place.beside topic).Sends world fun outcome sent after =>
      outcome = .ok (settings.bucket topic) ∧ sent = [] ∧ after.readers = world.readers ∧
        (place.read after.state.1).Remembers settings closed known := by
  have filled : (place.read world.state.1).cache.get? topic = some (settings.bucket topic) :=
    remembers.cached.mpr ⟨knows, rfl⟩
  have lawfulCache := lawful_cacheCell (Cell.lawful_beside (δ := δ) lawful)
  refine .of_on_eq (on_bucket_of_remembers remembers) rfl ⟨[], ?_, ?_⟩ <;>
    rw [ContainerCache.on_getOrCreate_of_some lawfulCache filled]
  · rw [List.append_nil]
    rfl
  · exact ⟨rfl, rfl, rfl, remembers.slotting lawful topic⟩

/-- A bucket that is unknown is verified, without a look at any stream, and is known from then on if
this succeeds. -/
theorem sends_bucket_of_unknown (confined : ∀ request, (send request).Leaves World.supplies)
    (spares : send.Spares place) (lawful : place.Lawful)
    (remembers : (place.read world.state.1).Remembers settings closed known)
    (unknown : ¬ known topic) :
    (bucket send.noting place.beside topic).Sends world fun outcome sent after =>
      (∃ verdict, Verified settings (settings.bucket topic) verdict sent ∧
        outcome = verdict.map fun _ => settings.bucket topic) ∧
      after.readers = world.readers ∧
        (place.read after.state.1).Remembers settings closed fun other =>
          known other ∨ other = topic ∧ ∃ name, outcome = .ok name := by
  have lawfulCache := lawful_cacheCell (Cell.lawful_beside (δ := δ) lawful)
  have empty : (place.read world.state.1).cache.get? topic = none :=
    Option.eq_none_iff_forall_ne_some.mpr fun name found =>
      unknown (remembers.cached.mp found).1
  let start := ContainerCache.slotting (cacheCell place.beside) topic world
  have slotted : (place.read start.state.1).Remembers settings closed known :=
    remembers.slotting lawful topic
  have leaves := leaves_ensureBucket
    (leaves_send (StoreChannel.leaves_noting confined) spares.noting) (fun _ _ _ => rfl) settings
    (settings.bucket topic)
  refine .of_on_eq ((on_bucket_of_remembers remembers).trans
    (ContainerCache.on_getOrCreate_of_none lawfulCache empty _)) rfl ?_
  refine .bind (.leaving (.bind leaves fun _ => .pure _) (sends_ensured settings _)) ?_ ?_
  · rintro fault sent after ⟨left, told⟩
    have kept : place.read after.state.1 = place.read start.state.1 := congrArg Prod.fst left
    refine ⟨told, congrArg (fun left => left.2.1) left, ?_⟩
    rw [kept]
    exact slotted.congr fun other => by simp
  · rintro name sent after ⟨left, verdict, verified, outcome⟩
    have kept : place.read after.state.1 = place.read start.state.1 := congrArg Prod.fst left
    have readers : after.readers = world.readers := congrArg (fun left => left.2.1) left
    refine .silent_bind rfl (.pure ⟨⟨verdict, ?_, outcome⟩, readers, ?_⟩)
    · rwa [List.append_nil]
    · obtain rfl : settings.bucket topic = name := by
        cases verdict with
        | error fault => cases outcome
        | ok value => exact (Except.ok.inj outcome).symm
      -- the check left the depot alone, so the slot that is filled is still the topic's own
      have index : (place.read start.state.1).cache.slots.get? topic =
          some ((place.read world.state.1).cache.slot topic).1 := by
        rw [read_slotting lawful]
        exact ContainerCache.get?_slots_slot _ _
      let filled : BucketDepot :=
        { place.read after.state.1 with
          cache := (place.read after.state.1).cache.fill
            ((place.read world.state.1).cache.slot topic).1 (settings.bucket topic) }
      have written : place.read (place.write filled after.state.1) = filled := lawful _ _
      change (place.read (place.write filled after.state.1)).Remembers settings closed _
      rw [written]
      refine ((kept ▸ slotted).fill (kept ▸ index)).congr fun other => ?_
      simp

/-- The bucket of a topic is obtained without a look at any stream, and is known from then on. -/
theorem sends_bucket_of_remembers (confined : ∀ request, (send request).Leaves World.supplies)
    (spares : send.Spares place) (lawful : place.Lawful)
    (remembers : (place.read world.state.1).Remembers settings closed known) (topic : String) :
    (bucket send.noting place.beside topic).Sends world fun outcome sent after =>
      Obtained settings topic (known topic) outcome sent ∧ after.readers = world.readers ∧
        (place.read after.state.1).Remembers settings closed fun other =>
          known other ∨ other = topic ∧ ∃ name, outcome = .ok name := by
  by_cases knows : known topic
  · refine (sends_bucket_of_known lawful remembers knows).mono ?_
    rintro _ _ after ⟨rfl, rfl, readers, remembersToo⟩
    refine ⟨.remembered knows, readers, remembersToo.congr fun other => ?_⟩
    constructor
    · rintro (earlier | ⟨rfl, -⟩)
      · exact earlier
      · exact knows
    · exact .inl
  · refine (sends_bucket_of_unknown confined spares lawful remembers knows).mono ?_
    rintro _ sent after ⟨⟨verdict, verified, rfl⟩, told⟩
    exact ⟨.verified knows verified, told⟩

end Remembered

end Bucket

end BucketDepot

end PayloadDepot
