import PayloadDepot.Proofs.Storage.Bucket.Transfer

/-!
# The order of requests

For one check-in everything is sent to one bucket.  As long as the bucket is not
known to be there, the requests ask for it, and from then on none of them does.
A bucket is created only right behind an answer that it is missing.
-/

namespace PayloadDepot

/-- The bucket that a request is about. -/
def StoreRequest.bucket : StoreRequest → String
  | headBucket bucket => bucket
  | createBucket bucket _ => bucket
  | putObject bucket _ _ => bucket
  | createUpload bucket _ => bucket
  | uploadPart bucket _ _ _ _ => bucket
  | completeUpload bucket _ _ _ => bucket
  | abortUpload bucket _ _ => bucket
  | getObject bucket _ => bucket

namespace StoreExchange

variable {bucket name : String} {answer : Except StoreFault StoreAnswer}

theorem establishes_headBucket_iff :
    Establishes bucket ⟨.headBucket name, answer⟩ ↔
      name = bucket ∧ ∃ value, answer = .ok value := by
  constructor
  · rintro ⟨⟩
    exact ⟨rfl, _, rfl⟩
  · rintro ⟨rfl, value, rfl⟩
    exact .found value

theorem establishes_createBucket_iff {location : Option String} :
    Establishes bucket ⟨.createBucket name location, answer⟩ ↔ name = bucket ∧
      ((∃ value, answer = .ok value) ∨ answer = .error (.refused "BucketAlreadyOwnedByYou")) := by
  constructor
  · rintro ⟨⟩
    · exact ⟨rfl, .inl ⟨_, rfl⟩⟩
    · exact ⟨rfl, .inr rfl⟩
  · rintro ⟨rfl, ⟨value, rfl⟩ | rfl⟩
    · exact .created location value
    · exact .owned location

theorem Establishes.asksForBucket {exchange : StoreExchange}
    (establishes : exchange.Establishes bucket) : exchange.request.asksForBucket = true := by
  cases establishes <;> rfl

end StoreExchange

namespace BucketDepot

open StoreExchange (establishes_headBucket_iff establishes_createBucket_iff)

variable {settings : StoreSettings} {topic bucket key id : String} {known : Prop}
  {sent checks uploads before after : Transcript} {exchange : StoreExchange}

/-- What is sent for a bucket that may be known already: a request asks for the bucket exactly if
nothing before it has established that the bucket is there. -/
def Asks (bucket : String) (known : Prop) (sent : Transcript) : Prop :=
  ∀ before exchange after, sent = before ++ exchange :: after →
    (exchange.request.asksForBucket = true ↔
      ¬ known ∧ ∀ check ∈ before, ¬ check.Establishes bucket)

section Asks

theorem asks_nil : Asks bucket known [] := by
  intro before exchange after split
  simp at split

theorem asks_cons (first : exchange.request.asksForBucket = true ↔ ¬ known)
    (later : Asks bucket (known ∨ exchange.Establishes bucket) sent) :
    Asks bucket known (exchange :: sent) := by
  intro before other after split
  cases before with
  | nil =>
      obtain ⟨rfl, -⟩ := List.cons.inj split
      simpa using first
  | cons check before =>
      obtain ⟨rfl, splitLater⟩ := List.cons.inj split
      rw [later _ _ _ splitLater, List.forall_mem_cons, not_or, and_assoc]

theorem asks_cons_of_unknown (unknown : ¬ known) (asked : exchange.request.asksForBucket = true)
    (later : Asks bucket (known ∨ exchange.Establishes bucket) sent) :
    Asks bucket known (exchange :: sent) :=
  asks_cons (iff_of_true asked unknown) later

/-- Nothing asks for a bucket that is known. -/
theorem asks_of_known (knows : known)
    (others : ∀ exchange ∈ sent, exchange.request.asksForBucket = false) :
    Asks bucket known sent := by
  induction sent generalizing known with
  | nil => exact asks_nil
  | cons exchange later inductionHypothesis =>
      obtain ⟨other, others⟩ := List.forall_mem_cons.mp others
      exact asks_cons (by simp [other, knows]) (inductionHypothesis (.inl knows) others)

end Asks

/-- What is sent for one check-in. -/
structure Orderly (settings : StoreSettings) (topic : String) (known : Prop)
    (sent : Transcript) : Prop where
  /-- Everything is sent to the bucket of the topic. -/
  own : ∀ exchange ∈ sent, exchange.request.bucket = settings.bucket topic
  /-- It is asked for as long as it is not established, and only then. -/
  asks : Asks (settings.bucket topic) known sent
  /-- As long as it is unknown, it is looked for first. -/
  looks : ¬ known → ∃ answer later, sent = ⟨.headBucket (settings.bucket topic), answer⟩ :: later
  /-- It is created only if the depot may, right behind the answer that it is missing, and with its
  location unless that is the first region. -/
  creates : ∀ {before bucket location answer after},
    sent = before ++ ⟨.createBucket bucket location, answer⟩ :: after →
      settings.createsBuckets = true ∧
        (∃ earlier, before = earlier ++ [⟨.headBucket bucket, .error (.refused "NotFound")⟩]) ∧
          location = if settings.region = "us-east-1" then none else some settings.region

section Parts

variable {partSize length : Nat}

/-- What is sent for a payload goes to one bucket, and none of it asks for the bucket. -/
theorem Transferred.own {outcome : Except Fault Unit}
    (transferred : Transferred bucket key partSize length outcome sent) :
    ∀ exchange ∈ sent, exchange.request.bucket = bucket ∧
      exchange.request.asksForBucket = false := by
  have others {id : String} {parts : Transcript}
      {listed : Except Fault (List (Int32 × Option String))}
      (partsSent : PartsSent bucket key id partSize length 1 listed parts) :
      ∀ exchange ∈ parts, exchange.request.bucket = bucket ∧
        exchange.request.asksForBucket = false := by
    intro exchange mem
    obtain ⟨number, body, request⟩ := partsSent.uploads exchange mem
    rw [request]
    exact ⟨rfl, rfl⟩
  cases transferred with
  | unread | put | notPut | notStarted | withoutId =>
      simp [StoreRequest.bucket, StoreRequest.asksForBucket]
  | completed id parts | notCompleted id parts | aborted id parts =>
      rw [List.forall_mem_cons, List.forall_mem_append, List.forall_mem_singleton]
      exact ⟨⟨rfl, rfl⟩, others parts, rfl, rfl⟩

end Parts

section Checks

variable {verdict : Except Fault String} {outcome : Except Fault Unit}

/-- A bucket is given exactly if it is established. -/
theorem Verified.ok_iff (verified : Verified settings bucket outcome checks) :
    (∃ value, outcome = .ok value) ↔ ∃ check ∈ checks, check.Establishes bucket := by
  cases verified with
  | found | missing | unchecked => simp [establishes_headBucket_iff]
  | created allowed created =>
      cases created with
      | made | owned => simp [establishes_createBucket_iff]
      | refused fault other =>
          simp [establishes_headBucket_iff, establishes_createBucket_iff, other]

theorem Obtained.ok_iff (obtained : Obtained settings topic known verdict checks) :
    (∃ name, verdict = .ok name) ↔
      known ∨ ∃ check ∈ checks, check.Establishes (settings.bucket topic) := by
  cases obtained with
  | remembered knows => simp [knows]
  | verified unknown verified =>
      rename_i unit
      rw [← verified.ok_iff]
      cases unit with
      | ok value => simp [Except.map]
      | error fault => simp [Except.map, unknown]

/-- Known afterwards are the buckets that were known before, and the one that was established. -/
theorem Obtained.known_iff {known : String → Prop} {other : String}
    (obtained : Obtained settings topic (known topic) verdict checks) :
    (known other ∨
        other = topic ∧ ∃ check ∈ checks, check.Establishes (settings.bucket topic)) ↔
      known other ∨ other = topic ∧ ∃ name, verdict = .ok name := by
  rw [obtained.ok_iff]
  constructor
  · rintro (knows | ⟨rfl, established⟩)
    · exact .inl knows
    · exact .inr ⟨rfl, .inr established⟩
  · rintro (knows | ⟨rfl, knows | established⟩)
    · exact .inl knows
    · exact .inl knows
    · exact .inr ⟨rfl, established⟩

/-- What is established while nothing but uploads follow was established by the checks. -/
theorem establishes_append_iff
    (others : ∀ exchange ∈ uploads, exchange.request.asksForBucket = false) :
    (∃ check ∈ checks ++ uploads, check.Establishes bucket) ↔
      ∃ check ∈ checks, check.Establishes bucket := by
  constructor
  · rintro ⟨check, mem, establishes⟩
    rcases List.mem_append.mp mem with asked | sent
    · exact ⟨check, asked, establishes⟩
    · exact absurd (others check sent) (by simp [establishes.asksForBucket])
  · rintro ⟨check, mem, establishes⟩
    exact ⟨check, List.mem_append_left _ mem, establishes⟩

theorem Created.exists_answer {region : String} (created : Created region bucket outcome checks) :
    ∃ answer, checks = [⟨.createBucket bucket (locationConstraint region), answer⟩] := by
  cases created <;> exact ⟨_, rfl⟩

theorem Verified.own (verified : Verified settings bucket outcome checks) :
    ∀ exchange ∈ checks, exchange.request.bucket = bucket := by
  cases verified with
  | found | missing | unchecked => simp [StoreRequest.bucket]
  | created allowed created =>
      obtain ⟨answer, rfl⟩ := created.exists_answer
      simp [StoreRequest.bucket]

theorem Verified.looks (verified : Verified settings bucket outcome checks) :
    ∃ answer later, checks = ⟨.headBucket bucket, answer⟩ :: later := by
  cases verified <;> exact ⟨_, _, rfl⟩

theorem Verified.creates (verified : Verified settings bucket outcome checks) {name : String}
    {location : Option String} {answer : Except StoreFault StoreAnswer}
    (split : checks = before ++ ⟨.createBucket name location, answer⟩ :: after) :
    settings.createsBuckets = true ∧
      (∃ earlier, before = earlier ++ [⟨.headBucket name, .error (.refused "NotFound")⟩]) ∧
        location = locationConstraint settings.region := by
  cases before with
  | nil => cases verified <;> cases split
  | cons first before =>
      cases verified with
      | found | missing | unchecked => simp at split
      | created allowed created =>
          obtain ⟨answer, rfl⟩ := created.exists_answer
          obtain ⟨rfl, splitLater⟩ := List.cons.inj split
          cases before with
          | nil =>
              cases splitLater
              exact ⟨allowed, ⟨[], rfl⟩, rfl⟩
          | cons second before => simp at splitLater

/-- A bucket that is unknown is asked for until it is established, and not once more. -/
theorem Verified.asks (verified : Verified settings bucket outcome checks) (unknown : ¬ known)
    (others : ∀ exchange ∈ uploads, exchange.request.asksForBucket = false)
    (stops : ∀ fault, outcome = .error fault → uploads = []) :
    Asks bucket known (checks ++ uploads) := by
  cases verified with
  | found answer =>
      exact asks_cons_of_unknown unknown rfl (asks_of_known (.inr (.found answer)) others)
  | missing | unchecked =>
      rw [stops _ rfl]
      exact asks_cons_of_unknown unknown rfl asks_nil
  | created allowed created =>
      refine asks_cons_of_unknown unknown rfl ?_
      have missing : ¬ (known ∨ StoreExchange.Establishes bucket
          ⟨.headBucket bucket, .error (.refused "NotFound")⟩) := by
        simp [establishes_headBucket_iff, unknown]
      cases created with
      | made answer =>
          exact asks_cons_of_unknown missing rfl
            (asks_of_known (.inr (.created _ answer)) others)
      | owned =>
          exact asks_cons_of_unknown missing rfl (asks_of_known (.inr (.owned _)) others)
      | refused fault other =>
          rw [stops _ rfl]
          exact asks_cons_of_unknown missing rfl asks_nil

/-- What asks for a bucket among what was sent belongs to the checks. -/
theorem exists_split_of_asks (others : ∀ exchange ∈ uploads, exchange.request.asksForBucket = false)
    (asked : exchange.request.asksForBucket = true)
    (split : checks ++ uploads = before ++ exchange :: after) :
    ∃ rest, checks = before ++ exchange :: rest := by
  have elsewhere : exchange ∉ uploads := fun mem =>
    Bool.false_ne_true ((others exchange mem).symm.trans asked)
  rcases List.append_eq_append_iff.mp split with ⟨more, -, found⟩ | ⟨more, found, rest⟩
  · exact absurd (found ▸ List.mem_append_right more List.mem_cons_self) elsewhere
  · cases more with
    | nil =>
        rw [List.nil_append] at rest
        exact absurd (rest ▸ List.mem_cons_self) elsewhere
    | cons first more =>
        obtain ⟨rfl, -⟩ := List.cons.inj rest
        exact ⟨more, found⟩

/-- What is sent for a bucket, and for a payload if the bucket was given, is orderly. -/
theorem Obtained.orderly (obtained : Obtained settings topic known verdict checks)
    (own : ∀ exchange ∈ uploads, exchange.request.bucket = settings.bucket topic ∧
      exchange.request.asksForBucket = false)
    (stops : ∀ fault, verdict = .error fault → uploads = []) :
    Orderly settings topic known (checks ++ uploads) := by
  have others := fun exchange mem => (own exchange mem).2
  cases obtained with
  | remembered knows =>
      exact {
        own := fun exchange mem => (own exchange mem).1
        asks := asks_of_known knows others
        looks := fun unknown => absurd knows unknown
        creates := fun split => by
          obtain ⟨rest, nothing⟩ := exists_split_of_asks others rfl split
          simp at nothing }
  | @verified unknown outcome _ verified =>
      have stopsToo (fault : Fault) (failed : outcome = .error fault) : uploads = [] :=
        stops fault (by rw [failed]; rfl)
      obtain ⟨answer, later, begins⟩ := verified.looks
      exact {
        own := List.forall_mem_append.mpr ⟨verified.own, fun exchange mem => (own exchange mem).1⟩
        asks := verified.asks unknown others stopsToo
        looks := fun _ => ⟨answer, later ++ uploads, by rw [begins, List.cons_append]⟩
        creates := fun split => by
          obtain ⟨rest, found⟩ := exists_split_of_asks others rfl split
          exact verified.creates found }

end Checks

end BucketDepot

end PayloadDepot
