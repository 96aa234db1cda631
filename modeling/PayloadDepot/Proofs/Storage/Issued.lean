import PayloadDepot.Proofs.Storage.BucketRuns
import PayloadDepot.Proofs.Storage.DirectoryRuns

/-!
# References that depots issue

A file system depot and an object store depot redeem every reference that they
give, whatever the topic is called: the one refuses names that are no components
of a path, and the other one folds them into names of buckets.  A memory depot
takes every topic as it is, so it redeems what it gives for exactly those topics
that are components, and for all others it gives references that lead nowhere.
-/

namespace PayloadDepot

variable {δ : Type}

namespace MemoryDepot

variable {place : Cell δ MemoryDepot} {world after : World δ} {names : Nat → String}
  {topic : String} {payload : ByteArray} {reference : Reference}

/-- A sound depot that creates containers. -/
structure Willing (depot : MemoryDepot) : Prop where
  sound : depot.Sound
  creates : depot.createsContainers = true

theorem willing_initial : Willing { createsContainers := true } where
  sound := ⟨ContainerCache.separate_empty, nofun, nofun⟩
  creates := rfl

theorem stands_checkIn (lawful : place.Lawful) (stands : place.Stands Willing names world)
    (topic : String) (payload : ByteArray) :
    place.Stands Willing names (Action.on (checkIn place topic payload) world).2 := by
  have opening := stands.fits.sound.opening topic
  obtain ⟨container, opened, opens⟩ := exists_opening stands.fits.creates topic
  rw [opens] at opening
  obtain ⟨state, journal, read, ran⟩ := on_checkIn_of_ok lawful opens payload
  rw [ran]
  refine .of_held_eq (Prod.ext read stands.named) ⟨opening.1.insert _ _ _, ?_⟩
  exact opening.2.creates.trans stands.fits.creates

theorem leaves_checkOut (reference : Reference) :
    (checkOut place reference).Leaves place.held := by
  intro world
  rw [on_checkOut]

theorem stands_step (lawful : place.Lawful) (stands : place.Stands Willing names world)
    (step : Depot.Step (depot place) place world after) :
    place.Stands Willing names after := by
  cases step with
  | checkIn topic payload => exact stands_checkIn lawful stands topic payload
  | checkInStream topic source length =>
      change place.Stands Willing names
        (Action.on (checkInStream place topic source length) world).2
      have left : place.held (Action.on (Depot.readDeclared source length) world).2 =
          place.held world :=
        (Depot.leaves_readDeclared source length).map
          (fun left => (place.read left.1.1, left.1.2)) world
      rw [checkInStream]
      rcases read : Action.on (Depot.readDeclared source length) world with
        ⟨fault | payload, middle⟩ <;> rw [read] at left
      · rw [Action.on_bind_of_error read]
        exact stands.of_held left
      · rw [Action.on_bind_of_ok read]
        exact stands_checkIn lawful (stands.of_held left) topic payload
  | checkOut reference => exact stands.of_held (leaves_checkOut reference world)
  | checkOutStream reference =>
      exact stands.of_held (Action.Leaves.bind (leaves_checkOut reference)
        (fun _ => .lift fun _ => rfl) world)
  | close =>
      obtain ⟨state, journal, read, closed⟩ := on_close lawful world
      change place.Stands Willing names (Effect.on (close place) world).2
      rw [closed]
      refine .of_held_eq (Prod.ext read stands.named) ⟨stands.fits.sound.closing, ?_⟩
      exact (extends_closing _).creates.trans stands.fits.creates
  | elsewhere same => exact stands.of_held same

theorem redeems_of_checkIn (lawful : place.Lawful) (stands : place.Stands Willing names world)
    (identifiers : ∀ number, BlobName.IsIdentifier (names number))
    (topicOk : Text.IsComponent topic)
    (issued : Action.on (checkIn place topic payload) world = (.ok reference, after)) :
    (depot place).Redeems reference payload after := by
  have kept := stands_checkIn lawful stands topic payload
  rw [issued] at kept
  refine redeems_iff.mpr (stands.fits.sound.find_of_checkIn lawful topicOk (fun _ => ?_) issued)
  rw [kept.named]
  exact (identifiers _).isComponent

/-- What is checked in for a topic that is no component cannot be found under its reference. -/
theorem find_of_not_isComponent (lawful : place.Lawful)
    (stands : place.Stands Willing names world) (noComponent : ¬ Text.IsComponent topic)
    (payload : ByteArray) :
    ∃ reference after, Action.on (checkIn place topic payload) world = (.ok reference, after) ∧
      ∀ depot : MemoryDepot, depot.find reference = .error (.badReference reference.text) := by
  obtain ⟨container, opened, opens⟩ := exists_opening stands.fits.creates topic
  obtain ⟨state, journal, -, ran⟩ := on_checkIn_of_ok lawful opens payload
  refine ⟨_, _, ran, fun depot => ?_⟩
  rw [find, Reference.locate_compose_of_not_isComponent scheme noComponent]
  rfl

/-- A memory depot redeems what it issues for exactly those topics that are components. -/
theorem redeemsIssued_iff (lawful : place.Lawful) (stands : place.Stands Willing names world)
    (identifiers : ∀ number, BlobName.IsIdentifier (names number)) :
    (depot place).RedeemsIssued topic world ↔ Text.IsComponent topic := by
  constructor
  · intro redeems
    by_contra noComponent
    obtain ⟨reference, after, issued, nowhere⟩ :=
      find_of_not_isComponent lawful stands noComponent ByteArray.empty
    have found := redeems_iff.mp (redeems.checkIn issued)
    rw [nowhere] at found
    cases found
  · intro topicOk
    refine ⟨fun issued => redeems_of_checkIn lawful stands identifiers topicOk issued, ?_⟩
    intro source length reference after issued
    change Action.on (checkInStream place topic source length) world = _ at issued
    rw [checkInStream] at issued
    rcases read : Action.on (Depot.readDeclared source length) world with ⟨fault | payload, middle⟩
    · rw [Action.on_bind_of_error read] at issued
      cases issued
    · rw [Action.on_bind_of_ok read] at issued
      obtain ⟨delivers, -, same⟩ := Depot.of_readDeclared_ok read
      have left : place.held middle = place.held world :=
        congrArg (fun left => (place.read left.1.1, left.1.2)) same
      exact ⟨payload, delivers,
        redeems_of_checkIn lawful (stands.of_held left) identifiers topicOk issued⟩

end MemoryDepot

/-- What depots that are new in a world redeem, in it and in every later one, of what they issue
there. -/
structure Depot.Redemptions (start : World δ) : Prop where
  /-- A file system depot redeems all of it, and refuses topics that no reference can carry. -/
  directory : ∀ {place : Cell δ DirectoryDepot} {root : String} {creates : Bool} {world},
    place.Lawful → place.read start.state = { root := root, createsContainers := creates } →
      (DirectoryDepot.depot place).Leads place start world → ∀ topic,
        (DirectoryDepot.depot place).RedeemsIssued topic world ∧
          (¬ Text.IsComponent topic → (DirectoryDepot.depot place).Refuses topic world)
  /-- An object store depot redeems all of it, whatever the topic, if its store can be relied on. -/
  bucket : ∀ {send : StoreChannel δ} {account : StoreAccount δ} {place : Cell δ BucketDepot}
    {settings : StoreSettings} {world}, send.Reliable account → send.Spares place →
      place.Lawful → 0 < settings.partSize → place.read start.state = { settings := settings } →
        (BucketDepot.depot send place).Leads place start world → ∀ topic,
          (BucketDepot.depot send place).RedeemsIssued topic world
  /-- A memory depot that creates containers redeems what it issues for a topic only if references
  can carry the topic. -/
  memory : ∀ {place : Cell δ MemoryDepot} {world}, place.Lawful →
    place.read start.state = { createsContainers := true } →
      (MemoryDepot.depot place).Leads place start world → ∀ topic,
        (MemoryDepot.depot place).RedeemsIssued topic world ↔ Text.IsComponent topic

/-- Depots whose payloads have identifiers for names redeem what they issue, but for memory depots:
they do not if the topic is no component. -/
theorem Depot.redemptions {start : World δ}
    (identifiers : ∀ number, BlobName.IsIdentifier (start.nameSource number)) :
    Redemptions start where
  directory {place root creates world} lawful new leads topic := by
    have stands := leads.stands
      (.of_held_eq (Prod.ext new rfl) (DirectoryDepot.fits_initial root creates))
      fun step stands => DirectoryDepot.stands_step lawful stands step
    refine ⟨DirectoryDepot.redeemsIssued_of_stands lawful stands identifiers topic, ?_⟩
    intro noComponent
    refine DirectoryDepot.refuses_of_not_isSegment (Bool.eq_false_iff.mpr fun segment => ?_)
    exact noComponent (DirectoryDepot.isComponent_of_isSegment segment)
  bucket {send account place settings world} reliable spares lawful positive new leads topic := by
    have stands := leads.stands
      (.of_held_eq (Prod.ext new rfl) (BucketDepot.fits_initial settings))
      fun step stands => BucketDepot.stands_step reliable spares lawful stands step
    exact BucketDepot.redeemsIssued_of_stands reliable spares lawful positive stands identifiers
      topic
  memory {place world} lawful new leads topic := by
    have stands := leads.stands (.of_held_eq (Prod.ext new rfl) MemoryDepot.willing_initial)
      fun step stands => MemoryDepot.stands_step lawful stands step
    exact MemoryDepot.redeemsIssued_iff lawful stands identifiers

/-- A new memory depot that creates containers. -/
def MemoryDepot.creating : World MemoryDepot :=
  .initial 0 .empty { createsContainers := true }

/-- A new file system depot below a directory that exists. -/
def DirectoryDepot.inOneDirectory : World DirectoryDepot :=
  .initial 0 ⟨[(["root"], .directory)], []⟩ { root := "root", createsContainers := true }

/-- A new object store depot that sends streams in parts of three bytes, with an empty store and a
stream of two chunks. -/
def BucketDepot.besideStream : World (ObjectStore × BucketDepot) :=
  { World.initial 0 .empty ({}, { settings := {
      endpoint := none
      region := StoreSettings.defaultRegion
      bucketLead := ""
      forcePathStyle := false
      credentials := .standard
      partSize := 3
      createsBuckets := true } }) with
    readers := #[⟨[.chunk "four".toUTF8, .chunk "five".toUTF8]⟩] }

/-- After they were closed, a file system depot hands out a payload and a memory depot another one,
and an object store depot has put seven bytes of a stream together from three parts. -/
theorem Depot.redemptions_afterClose :
    (let depot : Depot DirectoryDepot := DirectoryDepot.depot .whole
      let reference : Reference := ⟨"file://orders/00000000-0000-4000-8000-000000000000"⟩
      ∃ after, Action.on (depot.checkIn "orders" "four".toUTF8)
          (Effect.on depot.close DirectoryDepot.inOneDirectory).2 = (.ok reference, after) ∧
        depot.Redeems reference "four".toUTF8 after) ∧
      (let depot : Depot MemoryDepot := MemoryDepot.depot .whole
        let reference : Reference := ⟨"memory://orders/00000000-0000-4000-8000-000000000000"⟩
        ∃ after, Action.on (depot.checkIn "orders" "five".toUTF8)
            (Effect.on depot.close MemoryDepot.creating).2 = (.ok reference, after) ∧
          depot.Redeems reference "five".toUTF8 after) ∧
        (let depot : Depot (ObjectStore × BucketDepot) := BucketDepot.depot (.toStore .left) .right
          let reference : Reference := ⟨"s3://orders/00000000-0000-4000-8000-000000000000"⟩
          ∃ after, Action.on (depot.checkInStream "orders" ⟨0⟩ 7)
              (Effect.on depot.close BucketDepot.besideStream).2 = (.ok reference, after) ∧
            depot.Redeems reference "fourfiv".toUTF8 after) := by
  refine ⟨⟨_, Prod.ext (by decide +kernel) rfl, ?_⟩, ⟨_, Prod.ext (by decide +kernel) rfl, ?_⟩,
    ⟨_, Prod.ext (by decide +kernel) rfl, ?_⟩⟩
  · have honoured : Depot.Redemptions DirectoryDepot.inOneDirectory :=
      Depot.redemptions (BlobName.isIdentifier_ofNumber 0)
    have redeems := (honoured.directory Cell.lawful_whole rfl (.single .close) "orders").1
    exact redeems.checkIn (Prod.ext (by decide +kernel) rfl)
  · have honoured : Depot.Redemptions MemoryDepot.creating :=
      Depot.redemptions (BlobName.isIdentifier_ofNumber 0)
    have redeems := honoured.memory Cell.lawful_whole rfl (.single .close) "orders"
    exact (redeems.mpr (by decide)).checkIn (Prod.ext (by decide +kernel) rfl)
  · have honoured : Depot.Redemptions BucketDepot.besideStream :=
      Depot.redemptions (BlobName.isIdentifier_ofNumber 0)
    have redeems := honoured.bucket (ObjectStore.reliable_toStore Cell.lawful_left)
      (ObjectStore.spares_toStore Cell.apart_left_right) Cell.lawful_right (by decide) rfl
      (.single .close) "orders"
    obtain ⟨payload, delivers, redeemed⟩ := redeems.checkInStream
      (Prod.ext (by decide +kernel) rfl :
        Action.on (BucketDepot.checkInStream (.toStore .left) .right "orders" ⟨0⟩ 7) _ =
          (.ok ⟨"s3://orders/00000000-0000-4000-8000-000000000000"⟩, _))
    have bytes := delivers.bytes.trans
      (by decide +kernel : _ = "fourfiv".toUTF8.data.toList)
    obtain rfl : payload = "fourfiv".toUTF8 := ByteArray.ext (Array.toList_inj.mp bytes)
    exact redeemed

/-- A memory depot gives a reference for a topic with a slash, under which it never hands anything
out. -/
theorem MemoryDepot.bad_reference_of_slash :
    let depot : Depot MemoryDepot := MemoryDepot.depot .whole
    let reference : Reference := ⟨"memory://a/b/00000000-0000-4000-8000-000000000000"⟩
    ∃ after, Action.on (depot.checkIn "a/b" "four".toUTF8) MemoryDepot.creating =
        (.ok reference, after) ∧
      (Action.on (depot.checkOut reference) after).1 = .error (.badReference reference.text) ∧
        (Action.on (depot.checkOutStream reference) after).1 =
          .error (.badReference reference.text) :=
  ⟨_, Prod.ext (by decide +kernel) rfl, by decide +kernel, by decide +kernel⟩

end PayloadDepot
