import PayloadDepot.Proofs.Storage.Bucket.Cut
import PayloadDepot.Proofs.Storage.Bucket.OpenUploads
import PayloadDepot.Proofs.Storage.Bucket.Settings
import PayloadDepot.Proofs.Stream.Ending

/-!
# Streams that are sent

If the store accepts all that is sent to it, a stream that has the declared
length is sent byte for byte, as one object or part by part, and left just behind
what was sent.  One that ends before the declared length is refused with the
number of bytes that it had.
-/

namespace PayloadDepot

namespace StoreExchange

/-- The bytes of a payload that a request carries. -/
def carried : StoreExchange → List UInt8
  | ⟨.putObject _ _ body, _⟩ => body.data.toList
  | ⟨.uploadPart _ _ _ _ body, _⟩ => body.data.toList
  | _ => []

/-- The store did what it was asked for.  That it misses a bucket does no harm to a depot that may
create it. -/
def accepted (mayCreate : Bool) : StoreExchange → Bool
  | ⟨.createUpload _ _, .ok (.upload (some _))⟩ => true
  | ⟨.createUpload _ _, _⟩ => false
  | ⟨.headBucket _, .error fault⟩ => mayCreate && fault = .refused "NotFound"
  | ⟨_, .ok _⟩ => true
  | ⟨_, .error _⟩ => false

/-- An upload that the store accepts has an identifier. -/
theorem exists_id_of_accepted {mayCreate : Bool} {bucket key : String}
    {answer : Except StoreFault StoreAnswer}
    (accepted : StoreExchange.accepted mayCreate ⟨.createUpload bucket key, answer⟩ = true) :
    ∃ id, answer = .ok (.upload (some id)) := by
  rcases answer with fault | answer
  · cases accepted
  · cases answer with
    | done | part _ | object _ => cases accepted
    | upload given =>
        cases given with
        | none => cases accepted
        | some id => exact ⟨id, rfl⟩

end StoreExchange

namespace BucketDepot

variable {δ : Type} {send : StoreChannel δ} {place : Cell δ BucketDepot}
  {source : StreamHandle} {length before : Nat} {world : World (δ × Transcript)}

section Parts

/-- A part that the stream has is read, and the stream is left behind it. -/
theorem sends_readPart_of_le (enough : length ≤ (source.available world).length) :
    (readPart source length before).Sends world fun outcome sent after =>
      sent = [] ∧ ∃ body, outcome = .ok body ∧ source.Delivers length world body ∧
        source.items after = Item.behind length (source.items world) := by
  obtain ⟨bytes, readers, took, size, taken, left⟩ := StreamHandle.on_take_of_le enough
  refine .silent_bind rfl ?_
  rw [took]
  dsimp only
  rw [if_pos size]
  exact .pure ⟨rfl, bytes, rfl, ⟨taken, size⟩, left⟩

/-- A part that the stream has not is not read, and if the stream ends, it is told how many bytes
there were. -/
theorem sends_readPart_of_lt (short : (source.available world).length < length) :
    (readPart source length before).Sends world fun outcome sent _ =>
      sent = [] ∧ ∃ fault, outcome = .error fault ∧ (source.Ends world →
        fault = .contract (.partShort (before + (source.available world).length))) := by
  refine .silent_bind rfl ?_
  by_cases ends : source.Ends world
  · obtain ⟨bytes, readers, took, size⟩ := StreamHandle.on_take_of_ends ends short
    rw [took]
    dsimp only
    rw [if_neg (by omega), size]
    exact .fail ⟨rfl, _, rfl, fun _ => rfl⟩
  · obtain ⟨taken, readers, took, other⟩ := StreamHandle.on_take_of_lt short
    rw [took]
    cases taken with
    | error fault => exact .fail ⟨rfl, _, rfl, fun ended => absurd ended ends⟩
    | ok bytes =>
        dsimp only
        rw [if_neg (other bytes rfl)]
        exact .fail ⟨rfl, _, rfl, fun ended => absurd ended ends⟩

end Parts

/-- What becomes of a stream that is sent for some length, when some bytes before it were sent. -/
structure Streams {α : Type} (source : StreamHandle) (length before : Nat)
    (world : World (δ × Transcript)) (outcome : Except Fault α) (sent : Transcript)
    (after : World (δ × Transcript)) : Prop where
  enough : length ≤ (source.available world).length → (∃ value, outcome = .ok value) ∧
    sent.flatMap (·.carried) = (source.available world).take length ∧
      source.items after = Item.behind length (source.items world)
  short : (source.available world).length < length → source.Ends world →
    outcome = .error (.contract (.partShort (before + (source.available world).length)))

section Streams

variable {α β : Type} {middle after last : World (δ × Transcript)} {outcome : Except Fault α}
  {parts sent : Transcript}

theorem Streams.congr (streams : Streams source length before middle outcome sent after)
    (start : source.items middle = source.items world) :
    Streams source length before world outcome sent after := by
  have available : source.available middle = source.available world :=
    congrArg Item.available start
  obtain ⟨enough, short⟩ := streams
  rw [available, start] at enough
  rw [available, StreamHandle.Ends, start] at short
  exact ⟨enough, short⟩

/-- What is sent behind a stretch of a stream belongs to one longer stretch. -/
theorem Streams.append {more total : Nat} {value : α} {later : Except Fault β}
    (whole : length + more = total)
    (first : Streams source length before world (.ok value) parts middle)
    (rest : Streams source more (before + length) middle later sent after) :
    Streams source total before world later (parts ++ sent) after := by
  have available (enough : length ≤ (source.available world).length) :
      source.available middle = (source.available world).drop length := by
    rw [StreamHandle.available, (first.enough enough).2.2]
    exact Item.available_behind enough
  constructor
  · intro enough
    have reached : length ≤ (source.available world).length := by omega
    obtain ⟨-, bytes, left⟩ := first.enough reached
    have remaining : more ≤ (source.available middle).length := by
      rw [available reached, List.length_drop]
      omega
    obtain ⟨success, bytesToo, behind⟩ := rest.enough remaining
    refine ⟨success, ?_, ?_⟩
    · rw [List.flatMap_append, bytes, bytesToo, available reached, ← whole, List.take_add]
    · rw [behind, left, ← whole, Item.behind_add reached]
  · intro short ends
    have reached : length ≤ (source.available world).length := by
      by_contra missed
      cases first.short (Nat.lt_of_not_le missed) ends
    have left := (first.enough reached).2.2
    have count : (source.available middle).length =
        (source.available world).length - length := by
      rw [available reached, List.length_drop]
    have same : before + length + ((source.available world).length - length) =
        before + (source.available world).length := by omega
    rw [rest.short (by omega) (ends.of_items left), count, same]

/-- A stretch that is not sent is the end of a longer one. -/
theorem Streams.error {more total : Nat} {fault : Fault} (whole : length + more = total)
    (first : Streams source length before world (.error fault : Except Fault α) parts after) :
    Streams source total before world (.error fault : Except Fault β) parts after := by
  have missed : (source.available world).length < length := by
    by_contra reached
    obtain ⟨⟨_, ⟨⟩⟩, -⟩ := first.enough (Nat.le_of_not_lt reached)
  refine ⟨by omega, fun _ ends => ?_⟩
  cases first.short missed ends
  rfl

/-- What is sent around the parts of a stream carries nothing of it. -/
theorem Streams.around (streams : Streams source length before world outcome parts after)
    (finish : (∃ value, outcome = .ok value) → source.items last = source.items after)
    (carried : sent.flatMap (·.carried) = parts.flatMap (·.carried)) (change : α → β) :
    Streams source length before world (outcome.map change) sent last := by
  constructor
  · intro whole
    obtain ⟨⟨value, rfl⟩, bytes, behind⟩ := streams.enough whole
    exact ⟨⟨change value, rfl⟩, carried.trans bytes, (finish ⟨value, rfl⟩).trans behind⟩
  · intro short ends
    rw [streams.short short ends]
    rfl

end Streams

section Uploads

variable (confined : ∀ request, (send request).Leaves World.supplies) (mayCreate : Bool)
  (bucket key id : String)

/-- A part that is read and sent by one request is sent as it is. -/
theorem sends_part_streams {α : Type} {transfer : ByteArray → Action (δ × Transcript) α}
    (leaves : ∀ body, (transfer body).Leaves fun world => world.inside.supplies)
    (sends : ∀ body (middle : World (δ × Transcript)),
      (transfer body).Sends middle fun outcome sent _ =>
        sent.all (·.accepted mayCreate) = true →
          (∃ value, outcome = .ok value) ∧ sent.flatMap (·.carried) = body.data.toList) :
    (readPart source length before >>= transfer).Sends world fun outcome sent after =>
      sent.all (·.accepted mayCreate) = true →
        Streams source length before world outcome sent after := by
  rcases Nat.lt_or_ge (source.available world).length length with short | enough
  · refine .bind (sends_readPart_of_lt short) ?_ ?_
    · rintro fault _ after ⟨rfl, _, ⟨⟩, told⟩ -
      exact ⟨by omega, fun _ ends => by rw [told ends]⟩
    · rintro _ _ _ ⟨-, _, ⟨⟩, -⟩
  · refine .bind (sends_readPart_of_le enough) ?_ ?_
    · rintro _ _ _ ⟨-, _, ⟨⟩, -⟩
    · rintro body _ middle ⟨rfl, _, ⟨⟩, delivers, left⟩
      refine (Action.Sends.leaving (leaves body) (sends body middle)).mono ?_
      rintro outcome sent last ⟨same, told⟩ accepted
      obtain ⟨success, carried⟩ := told accepted
      have items := (StreamHandle.items_congr (congrArg Prod.fst same)).trans left
      exact ⟨fun _ => ⟨success, carried.trans delivers.bytes, items⟩, by omega⟩

include confined

theorem sends_uploadParts_streams {partSize : Nat} (positive : 0 < partSize)
    (remaining : Nat) (number : Int32) :
    (uploadParts send.noting bucket key id source partSize before remaining number).Sends world
      fun outcome sent after => sent.all (·.accepted mayCreate) = true →
        Streams source remaining before world outcome sent after := by
  induction remaining using Nat.strong_induction_on generalizing before number world with
  | h remaining inductionHypothesis =>
    rw [uploadParts]
    split
    · next nothing =>
      obtain rfl : remaining = 0 := nothing.resolve_right (Nat.ne_of_gt positive)
      refine .pure fun _ => ⟨fun _ => ⟨⟨_, rfl⟩, rfl, by simp⟩, fun short => ?_⟩
      exact absurd short (Nat.not_lt_zero _)
    · next more =>
      have whole : min remaining partSize + (remaining - min remaining partSize) = remaining :=
        Nat.add_sub_cancel' (Nat.min_le_left remaining partSize)
      dsimp only
      rw [← bind_assoc]
      refine .bind (sends_part_streams mayCreate (fun body => leaves_uploadPart
        (StoreChannel.leaves_noting confined) bucket key id number body) fun body middle =>
          (sends_uploadPart bucket key id number body).mono ?_) ?_ ?_
      · rintro _ _ _ (⟨answer, rfl, rfl⟩ | ⟨fault, rfl, rfl⟩) accepted
        · exact ⟨⟨_, rfl⟩, by simp [StoreExchange.carried]⟩
        · cases accepted
      · exact fun fault sent after told accepted => (told accepted).error whole
      · intro tag sent middle told
        -- the part and what is sent behind it make one stretch, however that ends
        have joined {listed : Except Fault (List (Int32 × Option String))} {later : Transcript}
            {last : World (δ × Transcript)}
            (toldToo : later.all (·.accepted mayCreate) = true → Streams source
              (remaining - min remaining partSize) (before + min remaining partSize) middle
                listed later last)
            (accepted : (sent ++ later).all (·.accepted mayCreate) = true) :
            Streams source remaining before world (listed.map ((number, tag) :: ·))
              (sent ++ later) last := by
          rw [List.all_append, Bool.and_eq_true_iff] at accepted
          exact .append whole (told accepted.1)
            ((toldToo accepted.2).around (fun _ => rfl) rfl _)
        refine .bind (inductionHypothesis _ (by omega) _) ?_ ?_
        · exact fun fault later last toldToo => joined toldToo
        · intro listed later last toldToo
          refine .pure ?_
          rw [List.append_nil]
          exact joined toldToo

theorem sends_uploadStream_streams {partSize : Nat} (positive : 0 < partSize)
    (larger : partSize < length) :
    (uploadStream send.noting bucket key source partSize length).Sends world
      fun outcome sent after => sent.all (·.accepted mayCreate) = true →
        Streams source length 0 world outcome sent after := by
  have confinedToo := StoreChannel.leaves_noting confined
  refine .bind (.leaving (leaves_startUpload confinedToo bucket key)
    (sends_startUpload bucket key larger)) ?_ ?_
  · rintro fault _ _ ⟨-, ⟨_, ⟨⟩, -⟩ | ⟨answer, _, -, rfl, noId, -⟩⟩ accepted
    obtain ⟨id, rfl⟩ := StoreExchange.exists_id_of_accepted (Bool.and_eq_true_iff.mp accepted).1
    exact absurd rfl (noId id)
  · rintro id _ middle ⟨same, ⟨_, ⟨⟩, rfl⟩ | ⟨_, _, ⟨⟩, -⟩⟩
    have items : source.items middle = source.items world :=
      StreamHandle.items_congr (congrArg Prod.fst same)
    refine .attempt_bind (sends_uploadParts_streams confined mayCreate bucket key id positive
      length 1) ?_
    intro outcome parts after told
    cases outcome with
    | ok listed =>
        refine (Action.Sends.leaving (leaves_completeUpload confinedToo bucket key id listed)
          (sends_completeUpload bucket key id listed)).mono ?_
        rintro _ _ last ⟨sameToo, ⟨answer, rfl, rfl⟩ | ⟨fault, rfl, rfl⟩⟩ accepted
        · have partsAccepted : parts.all (·.accepted mayCreate) = true := by
            simpa [StoreExchange.accepted] using accepted
          refine ((told partsAccepted).congr items).around (fun _ => ?_) ?_ fun _ => ()
          · exact StreamHandle.items_congr (congrArg Prod.fst sameToo)
          · simp [StoreExchange.carried]
        · simp [StoreExchange.accepted] at accepted
    | error fault =>
        refine .bind (sends_abortUpload bucket key id) ?_ ?_
        · rintro _ _ _ ⟨⟨⟩, -⟩
        · rintro _ _ _ ⟨-, answer, rfl⟩
          refine .fail fun accepted => ?_
          have partsAccepted : parts.all (·.accepted mayCreate) = true := by
            rw [List.append_nil, List.all_append, List.all_append] at accepted
            simp only [Bool.and_eq_true] at accepted
            exact accepted.2.1
          refine ((told partsAccepted).congr items).around nofun ?_ fun _ => ()
          simp [StoreExchange.carried]

/-- A stream that is put as one object is sent as one stretch. -/
theorem sends_putStream_streams :
    Action.Sends (do putObject send.noting bucket key (← readPart source length 0)) world
      fun outcome sent after => sent.all (·.accepted mayCreate) = true →
        Streams source length 0 world outcome sent after := by
  refine sends_part_streams mayCreate (fun body => leaves_putObject
    (StoreChannel.leaves_noting confined) bucket key body) fun body middle =>
      (sends_putObject bucket key body).mono ?_
  rintro _ _ _ (⟨answer, rfl, rfl⟩ | ⟨fault, rfl, rfl⟩) accepted
  · exact ⟨⟨_, rfl⟩, by simp [StoreExchange.carried]⟩
  · cases accepted

omit confined in
/-- The reference is given once the stream was sent. -/
theorem sends_issuing_streams {action : Action (δ × Transcript) Unit} (topic : String)
    (sends : action.Sends world fun outcome sent after =>
      sent.all (·.accepted mayCreate) = true → Streams source length 0 world outcome sent after) :
    Action.Sends (do action; Action.lift (issue topic bucket key length)) world
      fun outcome sent after => sent.all (·.accepted mayCreate) = true →
        Streams source length 0 world outcome sent after := by
  let given (_ : Unit) : Reference := .compose scheme bucket key
  refine .bind sends (fun fault _ _ told accepted => ?_) fun value sent after told => ?_
  · exact (told accepted).around nofun rfl given
  · refine .silent rfl fun accepted => ?_
    rw [List.append_nil] at accepted ⊢
    refine Streams.around (told accepted) (fun _ => ?_) rfl given
    rfl

theorem sends_depositStream_streams
    (positive : 0 < (place.read world.state.1).settings.partSize) (topic : String) :
    (depositStream send.noting place.beside topic source length bucket).Sends world
      fun outcome sent after => sent.all (·.accepted mayCreate) = true →
        Streams source length 0 world outcome sent after := by
  let key := world.nameSource world.namesIssued
  let named : World (δ × Transcript) := { world with namesIssued := world.namesIssued + 1 }
  refine .silent_bind rfl (.silent_bind rfl ?_)
  have congr {action : Action (δ × Transcript) Reference}
      (sends : action.Sends named fun outcome sent after =>
        sent.all (·.accepted mayCreate) = true → Streams source length 0 named outcome sent after) :
      action.Sends named fun outcome sent after =>
        sent.all (·.accepted mayCreate) = true →
          Streams source length 0 world outcome sent after :=
    sends.mono fun _ _ _ told accepted => (told accepted).congr rfl
  rw [Cell.on_load]
  dsimp only
  split
  · rw [← bind_assoc]
    exact congr (sends_issuing_streams mayCreate bucket key topic
      (sends_putStream_streams confined mayCreate bucket key))
  · next larger =>
    exact congr (sends_issuing_streams mayCreate bucket key topic
      (sends_uploadStream_streams confined mayCreate bucket key positive
        (Nat.lt_of_not_le larger)))

end Uploads

section Buckets

variable {settings : StoreSettings} {topic : String} {known : Prop} {checks : Transcript}
  {verdict : Except Fault String}

/-- A depot whose cache fits knows the topics that the cache has a bucket for. -/
theorem Fits.remembers {depot : BucketDepot} (fits : depot.Fits settings) :
    depot.Remembers settings depot.closed fun topic =>
      (depot.cache.get? topic).isSome = true where
  configured := fits.configured
  closed := rfl
  separate := fits.cache.separate
  cached := by
    intro topic name
    constructor
    · intro found
      exact ⟨by rw [found]; rfl, fits.cache.fits found⟩
    · rintro ⟨filled, same⟩
      obtain ⟨cached, found⟩ := Option.isSome_iff_exists.mp filled
      rw [same, found, fits.cache.fits found]

/-- A store that accepts what it is asked about a bucket provides it. -/
theorem Obtained.exists_ok (obtained : Obtained settings topic known verdict checks)
    (accepted : checks.all (·.accepted settings.createsBuckets) = true) :
    ∃ name, verdict = .ok name := by
  cases obtained with
  | remembered => exact ⟨_, rfl⟩
  | verified unknown verified =>
      cases verified with
      | found => exact ⟨_, rfl⟩
      | missing forbidden => simp [StoreExchange.accepted, forbidden] at accepted
      | unchecked fault other => simp [StoreExchange.accepted, other] at accepted
      | created allowed created =>
          cases created with
          | made | owned => exact ⟨_, rfl⟩
          | refused fault other => simp [StoreExchange.accepted] at accepted

theorem carried_eq_nil_of_asks {exchange : StoreExchange}
    (asks : exchange.request.asksForBucket = true) : exchange.carried = [] := by
  rcases exchange with ⟨request, answer⟩
  cases request with
  | headBucket | createBucket => rfl
  | putObject | createUpload | uploadPart | completeUpload | abortUpload | getObject => cases asks

end Buckets

section CheckIns

variable {settings : StoreSettings} (confined : ∀ request, (send request).Leaves World.supplies)
  (spares : send.Spares place) (lawful : place.Lawful)
  (fits : (place.read world.state.1).Fits settings) (topic : String)

include confined spares lawful fits

/-- What is sent for a stream is for the bucket first, and then for the payload. -/
theorem sends_checkInStream_streams (positive : 0 < settings.partSize) (source : StreamHandle)
    (length : Nat) :
    (checkInStream send.noting place.beside topic source length).Sends world
      fun outcome sent after => sent.all (·.accepted settings.createsBuckets) = true →
        ∃ checks uploads, sent = checks ++ uploads ∧
          (∀ exchange ∈ checks, exchange.request.asksForBucket = true) ∧
            Deposited (settings.bucket topic) settings.partSize length outcome uploads ∧
              Streams source length 0 world outcome uploads after := by
  rw [checkInStream_eq]
  refine .bind (sends_bucket_of_remembers confined spares lawful fits.remembers topic) ?_ ?_
  · rintro fault checks after ⟨obtained, -⟩ accepted
    obtain ⟨name, failed⟩ := obtained.exists_ok accepted
    cases failed
  · rintro name checks middle ⟨obtained, readers, remembers⟩
    obtain rfl := obtained.bucket_eq
    have configured := remembers.configured
    refine ((sends_depositStream topic _ source length).and (sends_depositStream_streams confined
      settings.createsBuckets _ (configured ▸ positive) topic)).mono ?_
    rintro outcome uploads after ⟨deposited, told⟩ accepted
    rw [List.all_append, Bool.and_eq_true_iff] at accepted
    rw [configured] at deposited
    exact ⟨checks, uploads, rfl, obtained.asksForBucket, deposited,
      (told accepted.2).congr (StreamHandle.items_congr readers)⟩

/-- A payload is checked in if the store accepts all that is sent for it. -/
theorem sends_checkIn_accepted (payload : ByteArray) :
    (checkIn send.noting place.beside topic payload).Sends world fun outcome sent _ =>
      sent.all (·.accepted settings.createsBuckets) = true →
        ∃ reference, outcome = .ok reference := by
  rw [checkIn_eq]
  refine .bind (sends_bucket_of_remembers confined spares lawful fits.remembers topic) ?_ ?_
  · rintro fault checks after ⟨obtained, -⟩ accepted
    obtain ⟨name, failed⟩ := obtained.exists_ok accepted
    cases failed
  · rintro name checks middle -
    refine .silent_bind rfl (.bind (sends_putObject name _ payload) ?_ ?_)
    · rintro _ _ _ (⟨_, ⟨⟩, -⟩ | ⟨fault, -, rfl⟩) accepted
      simp [StoreExchange.accepted] at accepted
    · rintro _ _ _ -
      exact .silent rfl fun _ => ⟨_, rfl⟩

end CheckIns

end BucketDepot

end PayloadDepot
