import PayloadDepot.Proofs.Storage.Bucket.Acceptance

/-!
# Limits of uploads

Object stores take no object and no part above a greatest size, no part but the
last one below a least size, and only so many parts of one object.  The settings
keep the part size between the two sizes, and a stream is sent in requests that
keep to the part size.  The number of its parts follows from the declared length
alone: nothing bounds it, and nothing cuts a payload that is checked in as a
whole.
-/

namespace PayloadDepot

namespace StoreExchange

/-- The body of an object that is put. -/
def object? : StoreExchange → Option ByteArray
  | ⟨.putObject _ _ body, _⟩ => some body
  | _ => none

/-- The number and the body of a part that is sent. -/
def part? : StoreExchange → Option (Int32 × ByteArray)
  | ⟨.uploadPart _ _ _ number body, _⟩ => some (number, body)
  | _ => none

end StoreExchange

/-- The objects that were put. -/
def Transcript.objects (sent : Transcript) : List ByteArray :=
  sent.filterMap (·.object?)

/-- The parts that were sent, with their numbers. -/
def Transcript.parts (sent : Transcript) : List (Int32 × ByteArray) :=
  sent.filterMap (·.part?)

/-- What asks for a bucket puts no object and sends no part. -/
theorem Transcript.append_of_asks {checks : Transcript}
    (asks : ∀ exchange ∈ checks, exchange.request.asksForBucket = true) (uploads : Transcript) :
    objects (checks ++ uploads) = uploads.objects ∧ parts (checks ++ uploads) = uploads.parts := by
  have neither : ∀ exchange ∈ checks, exchange.object? = none ∧ exchange.part? = none := by
    rintro ⟨request, answer⟩ mem
    have asked := asks _ mem
    cases request with
    | headBucket | createBucket => exact ⟨rfl, rfl⟩
    | putObject | createUpload | uploadPart | completeUpload | abortUpload | getObject =>
        cases asked
  have noObject : objects checks = [] :=
    List.filterMap_eq_nil_iff.mpr fun exchange mem => (neither exchange mem).1
  have noPart : parts checks = [] :=
    List.filterMap_eq_nil_iff.mpr fun exchange mem => (neither exchange mem).2
  constructor
  · rw [objects, List.filterMap_append]
    exact congrArg (· ++ uploads.objects) noObject
  · rw [parts, List.filterMap_append]
    exact congrArg (· ++ uploads.parts) noPart

/-- How many parts of one object a store takes. -/
def StoreSettings.greatestPartCount : Nat := 10000

namespace BucketDepot

/-- Parts of a stretch of some length, numbered by the words from some number on: each begins behind
those before it and inside of the stretch, and has as much of it as a part may have. -/
def Stretch (partSize length first : Nat) (parts : List (Int32 × ByteArray)) : Prop :=
  ∀ index part, parts[index]? = some part → part.1 = .ofNat (first + index) ∧
    index * partSize < length ∧ part.2.size = min (length - index * partSize) partSize

namespace Stretch

variable {partSize length first : Nat} {body : ByteArray} {later parts : List (Int32 × ByteArray)}

theorem nil : Stretch partSize length first [] := by
  simp [Stretch]

theorem cons (filled : 0 < length) (size : body.size = min length partSize)
    (rest : Stretch partSize (length - body.size) (first + 1) later) :
    Stretch partSize length first ((.ofNat first, body) :: later) := by
  intro index part found
  cases index with
  | zero =>
      obtain rfl := Option.some.inj found
      rw [Nat.zero_mul, Nat.sub_zero]
      exact ⟨rfl, filled, size⟩
  | succ index =>
      obtain ⟨numbered, inside, sizeToo⟩ := rest index part found
      have behind : (index + 1) * partSize = index * partSize + partSize := Nat.succ_mul ..
      rw [Nat.add_assoc, Nat.add_comm 1] at numbered
      exact ⟨numbered, by omega, by omega⟩

variable (stretch : Stretch partSize length first parts)

include stretch

theorem words : parts.map Prod.fst = partNumbers first parts.length := by
  refine List.ext_getElem (by simp [partNumbers]) fun index bound _ => ?_
  rw [List.length_map] at bound
  rw [List.getElem_map, (stretch index _ (List.getElem?_eq_getElem bound)).1]
  simp [partNumbers]

theorem size_le : ∀ part ∈ parts, part.2.size ≤ partSize := by
  intro part mem
  obtain ⟨index, found⟩ := List.getElem?_of_mem mem
  exact (stretch index part found).2.2 ▸ Nat.min_le_right ..

/-- Behind a part that is not the last one something is left, so it is not cut short. -/
theorem full : ∀ part ∈ parts.dropLast, part.2.size = partSize := by
  intro part mem
  obtain ⟨index, bound, rfl⟩ := List.getElem_of_mem mem
  rw [List.length_dropLast] at bound
  have inside := (stretch (index + 1) _ (List.getElem?_eq_getElem (by omega))).2.1
  have size := (stretch index _ (List.getElem?_eq_getElem (by omega))).2.2
  have behind : (index + 1) * partSize = index * partSize + partSize := Nat.succ_mul ..
  rw [List.getElem_dropLast, size]
  omega

theorem length_le (positive : 0 < partSize) :
    parts.length ≤ (length + partSize - 1) / partSize := by
  rw [Nat.le_div_iff_mul_le positive]
  cases count : parts.length with
  | zero => omega
  | succ last =>
      have inside := (stretch last _ (List.getElem?_eq_getElem (by omega))).2.1
      have whole : (last + 1) * partSize = last * partSize + partSize := Nat.succ_mul ..
      omega

end Stretch

section Sends

variable {δ : Type} {send : StoreChannel δ} {place : Cell δ BucketDepot}
  {world : World (δ × Transcript)}

theorem sends_uploadParts_stretch (bucket key id : String) (source : StreamHandle)
    (partSize before remaining first : Nat) :
    (uploadParts send.noting bucket key id source partSize before remaining (.ofNat first)).Sends
      world fun _ sent _ => Stretch partSize remaining first sent.parts := by
  induction remaining using Nat.strong_induction_on generalizing before first world with
  | h remaining inductionHypothesis =>
    rw [uploadParts]
    split
    · exact .pure .nil
    · refine .bind (sends_readPart source _ _) ?_ ?_
      · rintro fault _ _ ⟨rfl, -⟩
        exact .nil
      · rintro body _ _ ⟨rfl, size⟩
        have whole : body.size = min remaining partSize := size body rfl
        refine .bind (sends_uploadPart bucket key id (.ofNat first) body) ?_ ?_
        · rintro fault _ _ (⟨_, ⟨⟩, -⟩ | ⟨_, -, rfl⟩)
          exact .cons (by omega) whole .nil
        · rintro tag _ _ (⟨answer, -, rfl⟩ | ⟨_, ⟨⟩, -⟩)
          rw [← whole, ofNat_succ]
          refine .bind (inductionHypothesis _ (by omega) _ _) ?_ ?_
          · intro fault more _ rest
            exact .cons (by omega) whole rest
          · intro later more _ rest
            refine .pure ?_
            rw [List.append_nil]
            exact .cons (by omega) whole rest

theorem sends_uploadStream_stretch (bucket key : String) (source : StreamHandle)
    {partSize length : Nat} (larger : partSize < length) :
    (uploadStream send.noting bucket key source partSize length).Sends world
      fun _ sent _ => Stretch partSize length 1 sent.parts := by
  refine .bind (sends_startUpload bucket key larger) ?_ ?_
  · rintro fault _ _ (⟨_, ⟨⟩, -⟩ | ⟨answer, _, -, rfl, -⟩)
    exact .nil
  · rintro id _ _ (⟨_, ⟨⟩, rfl⟩ | ⟨_, _, ⟨⟩, -⟩)
    refine .attempt_bind (sends_uploadParts_stretch bucket key id source partSize 0 length 1) ?_
    intro outcome sent after stretch
    cases outcome with
    | ok listed =>
        refine (sends_completeUpload bucket key id listed).mono ?_
        rintro _ _ _ (⟨answer, -, rfl⟩ | ⟨fault, -, rfl⟩) <;>
          simpa [Transcript.parts, StoreExchange.part?] using stretch
    | error fault =>
        refine .bind (sends_abortUpload bucket key id) ?_ ?_
        · rintro _ _ _ ⟨⟨⟩, -⟩
        · rintro _ _ _ ⟨-, answer, rfl⟩
          refine .fail ?_
          simpa [Transcript.parts, StoreExchange.part?] using stretch

theorem sends_putObject_stretch (bucket key : String) (body : ByteArray) (partSize length : Nat) :
    (putObject send.noting bucket key body).Sends world
      fun _ sent _ => Stretch partSize length 1 sent.parts := by
  refine (sends_putObject bucket key body).mono ?_
  rintro _ _ _ (⟨answer, -, rfl⟩ | ⟨fault, -, rfl⟩) <;> exact .nil

theorem sends_issuing_stretch {action : Action (δ × Transcript) Unit} (topic bucket key : String)
    {partSize length : Nat} (sends : action.Sends world
      fun _ sent _ => Stretch partSize length 1 sent.parts) (noted : Nat) :
    Action.Sends (do action; Action.lift (issue topic bucket key noted)) world
      fun _ sent _ => Stretch partSize length 1 sent.parts := by
  refine .bind sends (fun _ _ _ stretch => stretch) fun _ sent _ stretch => ?_
  refine .silent rfl ?_
  rwa [List.append_nil]

theorem sends_depositStream_stretch (topic bucket : String) (source : StreamHandle)
    (length : Nat) :
    (depositStream send.noting place.beside topic source length bucket).Sends world
      fun _ sent _ =>
        Stretch (place.read world.state.1).settings.partSize length 1 sent.parts := by
  refine .silent_bind rfl (.silent_bind rfl ?_)
  rw [Cell.on_load]
  dsimp only
  split
  · refine .bind (sends_readPart source length 0) ?_ ?_
    · rintro fault _ _ ⟨rfl, -⟩
      exact .nil
    · rintro body _ _ ⟨rfl, -⟩
      exact sends_issuing_stretch topic bucket _ (sends_putObject_stretch bucket _ body _ _) _
  · next larger =>
    exact sends_issuing_stretch topic bucket _
      (sends_uploadStream_stretch bucket _ source (Nat.lt_of_not_le larger)) _

end Sends

section Transfers

variable {bucket key id : String} {partSize length remaining : Nat} {number : Int32}
  {sent : Transcript}

theorem PartsSent.objects {outcome : Except Fault (List (Int32 × Option String))}
    (partsSent : PartsSent bucket key id partSize remaining number outcome sent) :
    sent.objects = [] := by
  refine List.filterMap_eq_nil_iff.mpr fun exchange mem => ?_
  obtain ⟨number, body, request⟩ := partsSent.uploads exchange mem
  rcases exchange with ⟨_, answer⟩
  subst request
  rfl

/-- An object that is put for a stream is the whole of it, and fits into a part. -/
theorem Transferred.objects {outcome : Except Fault Unit}
    (transferred : Transferred bucket key partSize length outcome sent) :
    ∀ body ∈ sent.objects, body.size = length ∧ length ≤ partSize := by
  have uploaded {parts later : Transcript} (none : parts.objects = [])
      (noneToo : later.objects = []) (answer : Except StoreFault StoreAnswer) :
      Transcript.objects (⟨.createUpload bucket key, answer⟩ :: (parts ++ later)) = [] := by
    rw [Transcript.objects, List.filterMap_cons_none rfl, List.filterMap_append]
    exact congrArg₂ (· ++ ·) none noneToo
  cases transferred with
  | unread | notStarted | withoutId => nofun
  | put body _ size fits | notPut body _ size fits =>
      intro other mem
      obtain rfl := List.mem_singleton.mp mem
      exact ⟨size, fits⟩
  | completed _ parts | notCompleted _ parts | aborted _ parts =>
      rw [uploaded parts.objects rfl]
      nofun

/-- A payload that is put is put as one object. -/
theorem Transferred.exists_object (fits : length ≤ partSize)
    (transferred : Transferred bucket key partSize length (.ok ()) sent) :
    ∃ body ∈ sent.objects, body.size = length := by
  cases transferred with
  | put body answer size fits => exact ⟨body, List.mem_singleton_self body, size⟩
  | completed _ _ _ larger => exact absurd fits (Nat.not_le_of_lt larger)

theorem Transferred.parts_eq_nil {outcome : Except Fault Unit} (fits : length ≤ partSize)
    (transferred : Transferred bucket key partSize length outcome sent) : sent.parts = [] := by
  cases transferred with
  | unread | put | notPut | notStarted | withoutId => rfl
  | completed _ _ _ larger | notCompleted _ _ _ larger | aborted _ _ _ larger =>
      exact absurd fits (Nat.not_le_of_lt larger)

/-- A stream that is uploaded successfully is sent in as many parts as it takes. -/
theorem Transferred.count_parts (positive : 0 < partSize) (larger : partSize < length)
    (transferred : Transferred bucket key partSize length (.ok ()) sent) :
    sent.parts.length = (length + partSize - 1) / partSize := by
  cases transferred.shipped positive with
  | whole body answer size fits => exact absurd fits (Nat.not_le_of_lt larger)
  | parts id parts answer cut larger =>
      rw [← cut.count]
      simp [Transcript.parts, StoreExchange.part?, SentPart.exchange]

end Transfers

section CheckIns

open StoreSettings

variable {δ : Type} {send : StoreChannel δ} {place : Cell δ BucketDepot}
  {world : World (δ × Transcript)} {settings : StoreSettings}

/-- Settings are accepted only with a part size between the bounds, so it is never zero. -/
theorem bounds_of_ofPlan {plan : Plan} {settings : StoreSettings}
    (configured : ofPlan plan = .ok settings) :
    leastPartSize ≤ settings.partSize ∧ settings.partSize ≤ greatestPartSize :=
  ((ofPlan_eq_ok_iff plan).mp configured).allowed

/-- The limits that hold for what is sent for a stream of some declared length. -/
structure KeepsLimits (settings : StoreSettings) (length : Nat) (outcome : Except Fault Reference)
    (sent : Transcript) : Prop where
  /-- No object and no part is larger than a store takes. -/
  objects : ∀ body ∈ sent.objects, body.size ≤ greatestPartSize
  parts : ∀ part ∈ sent.parts, part.2.size ≤ greatestPartSize
  /-- Every part but the last one has the part size, which is large enough for a store. -/
  full : ∀ part ∈ sent.parts.dropLast,
    part.2.size = settings.partSize ∧ leastPartSize ≤ part.2.size
  /-- Parts are numbered by the words from one on, so without a gap as long as there are words for
  their numbers, and there are no more of them than the length takes. -/
  words : sent.parts.map Prod.fst = partNumbers 1 sent.parts.length
  numbered : sent.parts.length < 2 ^ 31 →
    sent.parts.map (·.1.toInt) = (List.range' 1 sent.parts.length).map Int.ofNat
  count : sent.parts.length ≤ (length + settings.partSize - 1) / settings.partSize
  /-- So a store takes their numbers if the greatest number of parts is enough for the length, -/
  limited : length ≤ greatestPartCount * settings.partSize →
    ∀ part ∈ sent.parts, 1 ≤ part.1.toInt ∧ part.1.toInt ≤ greatestPartCount
  /-- and if a longer stream is checked in, some part has a greater number. -/
  exceeded : greatestPartCount * settings.partSize < length →
    (∃ reference, outcome = .ok reference) →
      ∃ part ∈ sent.parts, greatestPartCount < part.1.toInt

/-- The part at each place of a stretch has the number of the place, if there is a word for it. -/
theorem Stretch.number_le {partSize length limit : Nat} {parts : List (Int32 × ByteArray)}
    (stretch : Stretch partSize length 1 parts) (words : limit < 2 ^ 31)
    (short : length ≤ limit * partSize) :
    ∀ part ∈ parts, 1 ≤ part.1.toInt ∧ part.1.toInt ≤ limit := by
  intro part mem
  obtain ⟨index, found⟩ := List.getElem?_of_mem mem
  obtain ⟨numbered, inside, -⟩ := stretch index part found
  have below : index < limit := Nat.lt_of_mul_lt_mul_right (Nat.lt_of_lt_of_le inside short)
  rw [numbered, Int32.toInt_ofNat_of_lt (by omega)]
  omega

theorem Stretch.exists_number_gt {partSize length limit : Nat} {parts : List (Int32 × ByteArray)}
    (stretch : Stretch partSize length 1 parts) (words : limit + 1 < 2 ^ 31)
    (positive : 0 < partSize) (long : limit * partSize < length)
    (count : parts.length = (length + partSize - 1) / partSize) :
    ∃ part ∈ parts, limit < part.1.toInt := by
  have more : (limit + 1) * partSize = limit * partSize + partSize := Nat.succ_mul ..
  have bound : limit + 1 ≤ parts.length := by
    rw [count, Nat.le_div_iff_mul_le positive]
    omega
  have numbered := (stretch limit _ (List.getElem?_eq_getElem bound)).1
  refine ⟨parts[limit], List.getElem_mem bound, ?_⟩
  rw [numbered, Int32.toInt_ofNat_of_lt (by omega)]
  omega

theorem KeepsLimits.of_deposited {length : Nat} {bucket : String}
    {outcome : Except Fault Reference} {sent : Transcript}
    (least : leastPartSize ≤ settings.partSize) (greatest : settings.partSize ≤ greatestPartSize)
    (stretch : Stretch settings.partSize length 1 sent.parts)
    (deposited : Deposited bucket settings.partSize length outcome sent) :
    KeepsLimits settings length outcome sent := by
  obtain ⟨key, verdict, transferred, rfl⟩ := deposited
  have positive : 0 < settings.partSize := Nat.lt_of_lt_of_le (by decide) least
  exact {
    objects := fun body mem => by
      obtain ⟨size, fits⟩ := transferred.objects body mem
      omega
    parts := fun part mem => (stretch.size_le part mem).trans greatest
    full := fun part mem => ⟨stretch.full part mem, (stretch.full part mem).symm ▸ least⟩
    words := stretch.words
    numbered := map_toInt_of_words stretch.words
    count := stretch.length_le positive
    limited := stretch.number_le (by decide)
    exceeded := by
      rintro long ⟨reference, given⟩
      have larger : settings.partSize < length := by
        rw [greatestPartCount] at long
        omega
      cases verdict with
      | error fault => cases given
      | ok value =>
          exact stretch.exists_number_gt (by decide) positive long
            (transferred.count_parts positive larger) }

theorem KeepsLimits.append {length : Nat} {outcome : Except Fault Reference}
    {checks uploads : Transcript}
    (asks : ∀ exchange ∈ checks, exchange.request.asksForBucket = true)
    (keeps : KeepsLimits settings length outcome uploads) :
    KeepsLimits settings length outcome (checks ++ uploads) := by
  obtain ⟨objects, parts⟩ := Transcript.append_of_asks asks uploads
  obtain ⟨small, smallParts, full, words, numbered, count, limited, exceeded⟩ := keeps
  constructor <;> first | rwa [objects] | rwa [parts]

/-- The settings stay what they are while a bucket is looked up. -/
theorem settings_bucket (spares : send.Spares place) (lawful : place.Lawful) (topic : String) :
    (bucket send.noting place.beside topic).Leaves
      fun world => (place.read world.state.1).settings := by
  show Action.Leaves (fun world => (place.beside.read world.state).settings) _
  refine leaves_bucket (fun request world =>
      congrArg BucketDepot.settings (spares.noting request world))
    (fun _ _ _ => rfl) (fun cache world => ?_) topic
  have written := read_write_cacheCell (Cell.lawful_beside (δ := δ) lawful) cache world.state
  rw [World.withState_state, written]

/-- The requests for a stream keep the limits, whatever the store answers. -/
theorem sends_checkInStream_limits (least : leastPartSize ≤ settings.partSize)
    (greatest : settings.partSize ≤ greatestPartSize) (spares : send.Spares place)
    (lawful : place.Lawful) (settled : (place.read world.state.1).settings = settings)
    (topic : String) (source : StreamHandle) (length : Nat) :
    (checkInStream send.noting place.beside topic source length).Sends world
      fun outcome sent _ => KeepsLimits settings length outcome sent := by
  rw [checkInStream_eq]
  refine .bind (.leaving (settings_bucket spares lawful topic) (sends_bucket place topic)) ?_ ?_
  · rintro fault checks _ ⟨-, asks⟩
    have nothing : Deposited topic settings.partSize length (.error fault) [] :=
      ⟨default, _, .unread fault, rfl⟩
    have keeps := (KeepsLimits.of_deposited least greatest .nil nothing).append asks
    rwa [List.append_nil] at keeps
  · rintro name checks middle ⟨same, asks⟩
    have configured : (place.read middle.state.1).settings = settings := same.trans settled
    refine ((sends_depositStream topic name source length).and
      (sends_depositStream_stretch topic name source length)).mono ?_
    rintro outcome uploads _ ⟨deposited, stretch⟩
    rw [configured] at deposited stretch
    exact .append asks (.of_deposited least greatest stretch deposited)

/-- A payload that is checked in as a whole is put as one object. -/
structure PutsWhole (payload : ByteArray) (outcome : Except Fault Reference) (sent : Transcript) :
    Prop where
  parts : sent.parts = []
  objects : ∀ body ∈ sent.objects, body.size = payload.size
  put : (∃ reference, outcome = .ok reference) → ∃ body ∈ sent.objects, body.size = payload.size

theorem sends_checkIn_whole (topic : String) (payload : ByteArray) :
    (checkIn send.noting place.beside topic payload).Sends world
      fun outcome sent _ => PutsWhole payload outcome sent := by
  rw [checkIn_eq]
  refine .bind (sends_bucket place topic) ?_ ?_
  · rintro fault checks _ asks
    obtain ⟨objects, parts⟩ := Transcript.append_of_asks asks []
    rw [List.append_nil] at objects parts
    exact ⟨parts, objects ▸ nofun, nofun⟩
  · rintro name checks middle asks
    refine (sends_deposit topic name payload).mono ?_
    rintro _ uploads _ ⟨key, verdict, transferred, rfl⟩
    obtain ⟨objects, parts⟩ := Transcript.append_of_asks asks uploads
    refine ⟨parts.trans (transferred.parts_eq_nil le_rfl),
      fun body mem => (transferred.objects body (objects ▸ mem)).1, ?_⟩
    rintro ⟨reference, given⟩
    rw [objects]
    cases verdict with
    | error fault => cases given
    | ok value => exact transferred.exists_object le_rfl

/-- Whatever the store answers and whatever the stream delivers, what is sent for a stream keeps the
limits of a store on the sizes of objects and parts, and on the number of parts if as many of them
as a store takes are enough for the declared length.  A payload that is checked in as a whole is put
as one object, whatever its size. -/
theorem uploads_keep_limits {plan : Plan} (configured : ofPlan plan = .ok settings)
    (spares : send.Spares place) (lawful : place.Lawful)
    (settled : (place.read world.state.1).settings = settings) (topic : String) :
    (∀ source length,
      (checkInStream send.noting place.beside topic source length).Sends world
        fun outcome sent _ => KeepsLimits settings length outcome sent) ∧
    ∀ payload, (checkIn send.noting place.beside topic payload).Sends world
      fun outcome sent _ => PutsWhole payload outcome sent := by
  obtain ⟨least, greatest⟩ := bounds_of_ofPlan configured
  exact ⟨sends_checkInStream_limits least greatest spares lawful settled topic,
    sends_checkIn_whole topic⟩

end CheckIns

section Plenty

open StoreSettings

/-- A stream that is as long as the greatest number of least parts is checked in, and its parts are
numbered up to the greatest number that a store takes. -/
theorem uploads_keep_limits_of_greatest_count :
    let length := greatestPartCount * leastPartSize
    let ran := Action.on (checkInStream roomy.noting Cell.whole.beside "orders" ⟨0⟩ length)
      (plenty length).unnoted
    ofPlan leastParts = .ok leastPartSettings ∧ (∃ reference, ran.1 = .ok reference) ∧
      ∀ part ∈ ran.2.state.2.parts, 1 ≤ part.1.toInt ∧ part.1.toInt ≤ greatestPartCount := by
  -- The bytes of the stream are never looked at, so any number of them is as good as this one.
  have general (length : Nat) (short : length ≤ greatestPartCount * leastPartSize) :
      let ran := Action.on (checkInStream roomy.noting Cell.whole.beside "orders" ⟨0⟩ length)
        (plenty length).unnoted
      (∃ reference, ran.1 = .ok reference) ∧
        ∀ part ∈ ran.2.state.2.parts, 1 ≤ part.1.toInt ∧ part.1.toInt ≤ greatestPartCount := by
    have keeps := ((uploads_keep_limits ofPlan_leastParts spares_roomy Cell.lawful_whole
      (fits_plenty length).configured "orders").1 ⟨0⟩ length).of_unnoted
    exact ⟨checkInStream_plenty "orders" length, keeps.limited short⟩
  exact ⟨ofPlan_leastParts, general _ (Nat.le_refl _)⟩

/-- One byte more makes a part with a number that no store takes, and a payload that is checked in
as a whole makes an object that is larger than any. -/
theorem limits_exceeded :
    let length := greatestPartCount * leastPartSize + 1
    let ran := Action.on (checkInStream roomy.noting Cell.whole.beside "orders" ⟨0⟩ length)
      (plenty length).unnoted
    let payload : ByteArray := ⟨Array.replicate (greatestPartSize + 1) 0⟩
    let ranWhole := Action.on (checkIn roomy.noting Cell.whole.beside "orders" payload)
      (plenty 0).unnoted
    ofPlan leastParts = .ok leastPartSettings ∧
      (length < 2 ^ 63 ∧ ∃ part ∈ ran.2.state.2.parts, greatestPartCount < part.1.toInt) ∧
        payload.size < 2 ^ 63 ∧
          ∃ body ∈ ranWhole.2.state.2.objects, greatestPartSize < body.size := by
  have streams (length : Nat) (long : greatestPartCount * leastPartSize < length) :
      ∃ part ∈ (Action.on (checkInStream roomy.noting Cell.whole.beside "orders" ⟨0⟩ length)
        (plenty length).unnoted).2.state.2.parts, greatestPartCount < part.1.toInt := by
    have keeps := (sends_checkInStream_limits (by decide) (by decide) spares_roomy
      Cell.lawful_whole (fits_plenty length).configured "orders" ⟨0⟩ length).of_unnoted
    exact keeps.exceeded long (checkInStream_plenty "orders" length)
  have payloads (payload : ByteArray) (large : greatestPartSize < payload.size) :
      ∃ body ∈ (Action.on (checkIn roomy.noting Cell.whole.beside "orders" payload)
        (plenty 0).unnoted).2.state.2.objects, greatestPartSize < body.size := by
    have sends : (checkIn roomy.noting Cell.whole.beside "orders" payload).Sends
        (plenty 0).unnoted fun outcome sent _ => PutsWhole payload outcome sent :=
      sends_checkIn_whole "orders" payload
    obtain ⟨body, mem, size⟩ := sends.of_unnoted.put (checkIn_plenty "orders" payload)
    exact ⟨body, mem, size ▸ large⟩
  have size : ByteArray.size ⟨Array.replicate (greatestPartSize + 1) 0⟩ = greatestPartSize + 1 :=
    Array.size_replicate
  refine ⟨ofPlan_leastParts, ⟨by decide, streams _ (Nat.lt_succ_self _)⟩, ?_, payloads _ ?_⟩
  · rw [size]
    decide
  · rw [size]
    exact Nat.lt_succ_self _

end Plenty

end BucketDepot

end PayloadDepot
