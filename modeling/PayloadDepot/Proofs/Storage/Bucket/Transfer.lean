import PayloadDepot.Proofs.Storage.Bucket.Verification

/-!
# How payloads are transferred

A payload is put as one object, or it is uploaded in parts.  Below stands, for
every way in which a transfer can end, what was sent for it, whatever the store
answered and whatever the stream delivered: the parts of an upload are numbered
one after the other, and each of them has the size that the part size and what
is left of the declared length allow.
-/

namespace PayloadDepot

/-- The tag that a store gave to a part. -/
def StoreAnswer.tag : StoreAnswer → Option String
  | part tag => tag
  | _ => none

namespace BucketDepot

/-- How sending the parts of an upload from some number on ends when some bytes remain, and what is
sent for it. -/
inductive PartsSent (bucket key id : String) (partSize : Nat) : (remaining : Nat) →
    (number : Int32) → Except Fault (List (Int32 × Option String)) → Transcript → Prop
  | done {remaining : Nat} {number : Int32} (nothing : min remaining partSize = 0) :
      PartsSent bucket key id partSize remaining number (.ok []) []
  | unread {remaining : Nat} {number : Int32} (fault : Fault) :
      PartsSent bucket key id partSize remaining number (.error fault) []
  | refused {remaining : Nat} {number : Int32} (body : ByteArray) (fault : StoreFault)
      (size : body.size = min remaining partSize) :
      PartsSent bucket key id partSize remaining number
        (.error (.depotBy (.partNotUploaded number) (.store fault)))
        [⟨.uploadPart bucket key id number body, .error fault⟩]
  | sent {remaining : Nat} {number : Int32}
      {outcome : Except Fault (List (Int32 × Option String))} {later : Transcript}
      (body : ByteArray) (answer : StoreAnswer) (size : body.size = min remaining partSize) (positive : 0 < body.size)
      (rest : PartsSent bucket key id partSize (remaining - body.size) (number + 1) outcome later) :
      PartsSent bucket key id partSize remaining number
        (outcome.map ((number, answer.tag) :: ·))
        (⟨.uploadPart bucket key id number body, .ok answer⟩ :: later)

/-- How the transfer of a payload of some length ends, and what is sent for it. -/
inductive Transferred (bucket key : String) (partSize length : Nat) :
    Except Fault Unit → Transcript → Prop
  | unread (fault : Fault) : Transferred bucket key partSize length (.error fault) []
  | put (body : ByteArray) (answer : StoreAnswer) (size : body.size = length)
      (fits : length ≤ partSize) :
      Transferred bucket key partSize length (.ok ()) [⟨.putObject bucket key body, .ok answer⟩]
  | notPut (body : ByteArray) (fault : StoreFault) (size : body.size = length)
      (fits : length ≤ partSize) :
      Transferred bucket key partSize length
        (.error (.depotBy (.objectNotUploaded (location bucket key)) (.store fault)))
        [⟨.putObject bucket key body, .error fault⟩]
  | notStarted (fault : StoreFault) (larger : partSize < length) :
      Transferred bucket key partSize length
        (.error (.depotBy (.uploadNotStarted (location bucket key)) (.store fault)))
        [⟨.createUpload bucket key, .error fault⟩]
  | withoutId (answer : StoreAnswer) (noId : ∀ id, answer ≠ .upload (some id))
      (larger : partSize < length) :
      Transferred bucket key partSize length (.error (.depot .uploadWithoutId))
        [⟨.createUpload bucket key, .ok answer⟩]
  | completed (id : String) {listed : List (Int32 × Option String)} {parts : Transcript}
      (sent : PartsSent bucket key id partSize length 1 (.ok listed) parts) (answer : StoreAnswer)
      (larger : partSize < length) :
      Transferred bucket key partSize length (.ok ())
        (⟨.createUpload bucket key, .ok (.upload (some id))⟩ ::
          (parts ++ [⟨.completeUpload bucket key id listed, .ok answer⟩]))
  | notCompleted (id : String) {listed : List (Int32 × Option String)} {parts : Transcript}
      (sent : PartsSent bucket key id partSize length 1 (.ok listed) parts) (fault : StoreFault)
      (larger : partSize < length) :
      Transferred bucket key partSize length
        (.error (.depotBy (.uploadNotCompleted (location bucket key)) (.store fault)))
        (⟨.createUpload bucket key, .ok (.upload (some id))⟩ ::
          (parts ++ [⟨.completeUpload bucket key id listed, .error fault⟩]))
  | aborted (id : String) {fault : Fault} {parts : Transcript}
      (sent : PartsSent bucket key id partSize length 1 (.error fault) parts)
      (answer : Except StoreFault StoreAnswer) (larger : partSize < length) :
      Transferred bucket key partSize length (.error fault)
        (⟨.createUpload bucket key, .ok (.upload (some id))⟩ ::
          (parts ++ [⟨.abortUpload bucket key id, answer⟩]))

/-- A payload of some length was transferred into a bucket, and if this succeeded, a reference to it
was given. -/
def Deposited (bucket : String) (partSize length : Nat) (outcome : Except Fault Reference)
    (sent : Transcript) : Prop :=
  ∃ key transferred, Transferred bucket key partSize length transferred sent ∧
    outcome = transferred.map fun _ => .compose scheme bucket key

section Requests

variable {bucket key id : String} {partSize remaining length : Nat} {number : Int32}

/-- Sending parts sends nothing but parts of the one upload. -/
theorem PartsSent.uploads {outcome : Except Fault (List (Int32 × Option String))}
    {parts : Transcript} (sent : PartsSent bucket key id partSize remaining number outcome parts) :
    ∀ exchange ∈ parts,
      ∃ number body, exchange.request = .uploadPart bucket key id number body := by
  induction sent with
  | done _ | unread _ => simp
  | refused body fault size => simp
  | sent body answer size positive rest inductionHypothesis =>
      rw [List.forall_mem_cons]
      exact ⟨⟨_, body, rfl⟩, inductionHypothesis⟩

end Requests

section Sends

variable {δ : Type} {send : StoreChannel δ} {world : World (δ × Transcript)}
  {bucket key id : String}

theorem sends_putObject (bucket key : String) (body : ByteArray) :
    (putObject send.noting bucket key body).Sends world fun outcome sent _ =>
      (∃ answer, outcome = .ok () ∧ sent = [⟨.putObject bucket key body, .ok answer⟩]) ∨
        ∃ fault,
          outcome = .error (.depotBy (.objectNotUploaded (location bucket key)) (.store fault)) ∧
            sent = [⟨.putObject bucket key body, .error fault⟩] := by
  refine .request_bind fun answer after _ => ?_
  cases answer with
  | ok answer => exact .pure (.inl ⟨answer, rfl, rfl⟩)
  | error fault => exact .fail (.inr ⟨fault, rfl, rfl⟩)

/-- A payload that fits into a part is put as one object. -/
theorem sends_put (bucket key : String) {body : ByteArray} {partSize : Nat}
    (fits : body.size ≤ partSize) :
    (putObject send.noting bucket key body).Sends world fun outcome sent _ =>
      Transferred bucket key partSize body.size outcome sent := by
  refine (sends_putObject bucket key body).mono ?_
  rintro _ _ _ (⟨answer, rfl, rfl⟩ | ⟨fault, rfl, rfl⟩)
  · exact .put body answer rfl fits
  · exact .notPut body fault rfl fits

theorem sends_readPart (source : StreamHandle) (length before : Nat) :
    (readPart source length before).Sends world fun outcome sent _ =>
      sent = [] ∧ ∀ body, outcome = .ok body → body.size = length := by
  refine .silent_bind rfl ?_
  split
  · exact .fail ⟨rfl, nofun⟩
  · split
    · next whole => exact .pure ⟨rfl, fun _ same => Except.ok.inj same ▸ whole⟩
    · exact .fail ⟨rfl, nofun⟩

/-- A part is sent with one request. -/
theorem sends_uploadPart (bucket key id : String) (number : Int32) (body : ByteArray) :
    (uploadPart send.noting bucket key id number body).Sends world fun outcome sent _ =>
      (∃ answer, outcome = .ok answer.tag ∧
        sent = [⟨.uploadPart bucket key id number body, .ok answer⟩]) ∨
      ∃ fault, outcome = .error (.depotBy (.partNotUploaded number) (.store fault)) ∧
        sent = [⟨.uploadPart bucket key id number body, .error fault⟩] := by
  refine .request_bind fun answer after _ => ?_
  rcases answer with fault | answer
  · exact .fail (.inr ⟨fault, rfl, rfl⟩)
  · cases answer with
    | part _ | done | upload _ | object _ => exact .pure (.inl ⟨_, rfl, rfl⟩)

theorem sends_uploadParts (bucket key id : String) (source : StreamHandle)
    (partSize before remaining : Nat) (number : Int32) :
    (uploadParts send.noting bucket key id source partSize before remaining number).Sends world
      fun outcome sent _ => PartsSent bucket key id partSize remaining number outcome sent := by
  induction remaining using Nat.strong_induction_on generalizing before number world with
  | h remaining inductionHypothesis =>
    rw [uploadParts]
    split
    · exact .pure (.done (by omega))
    · refine .bind (sends_readPart source _ _) ?_ ?_
      · rintro fault _ _ ⟨rfl, -⟩
        exact .unread fault
      · rintro body _ _ ⟨rfl, size⟩
        have whole : body.size = min remaining partSize := size body rfl
        refine .bind (sends_uploadPart bucket key id number body) ?_ ?_
        · rintro fault _ _ (⟨_, refusal, -⟩ | ⟨reason, refusal, rfl⟩)
          · cases refusal
          · obtain rfl := Except.error.inj refusal
            exact .refused body reason whole
        · rintro tag _ _ (⟨answer, tagged, rfl⟩ | ⟨_, tagged, -⟩)
          · obtain rfl : tag = answer.tag := Except.ok.inj tagged
            rw [← whole]
            refine .bind (inductionHypothesis _ (by omega) _ _) ?_ ?_
            · intro fault more _ rest
              exact .sent body answer whole (by omega) rest
            · intro later more _ rest
              refine .pure ?_
              rw [List.append_nil]
              exact .sent body answer whole (by omega) rest
          · cases tagged

/-- An upload is started with one request, unless the answer to it tells no identifier. -/
theorem sends_startUpload (bucket key : String) {partSize length : Nat}
    (larger : partSize < length) :
    (startUpload send.noting bucket key).Sends world fun outcome sent _ =>
      (∃ id, outcome = .ok id ∧ sent = [⟨.createUpload bucket key, .ok (.upload (some id))⟩]) ∨
        ∃ answer fault, outcome = .error fault ∧ sent = [⟨.createUpload bucket key, answer⟩] ∧
          (∀ id, answer ≠ .ok (.upload (some id))) ∧
            Transferred bucket key partSize length (.error fault) sent := by
  refine .request_bind fun answer after _ => ?_
  rcases answer with fault | answer
  · exact .fail (.inr ⟨_, _, rfl, rfl, nofun, .notStarted fault larger⟩)
  · cases answer with
    | done | part _ | object _ =>
        exact .fail (.inr ⟨_, _, rfl, rfl, nofun, .withoutId _ nofun larger⟩)
    | upload given =>
        cases given with
        | none => exact .fail (.inr ⟨_, _, rfl, rfl, nofun, .withoutId _ nofun larger⟩)
        | some id => exact .pure (.inl ⟨id, rfl, rfl⟩)

theorem sends_completeUpload (bucket key id : String) (listed : List (Int32 × Option String)) :
    (completeUpload send.noting bucket key id listed).Sends world fun outcome sent _ =>
      (∃ answer, outcome = .ok () ∧ sent = [⟨.completeUpload bucket key id listed, .ok answer⟩]) ∨
        ∃ fault,
          outcome = .error (.depotBy (.uploadNotCompleted (location bucket key)) (.store fault)) ∧
            sent = [⟨.completeUpload bucket key id listed, .error fault⟩] := by
  refine .request_bind fun answer after _ => ?_
  cases answer with
  | ok answer => exact .pure (.inl ⟨answer, rfl, rfl⟩)
  | error fault => exact .fail (.inr ⟨fault, rfl, rfl⟩)

theorem sends_abortUpload (bucket key id : String) :
    (Action.lift (abortUpload send.noting bucket key id)).Sends world fun outcome sent _ =>
      outcome = .ok () ∧ ∃ answer, sent = [⟨.abortUpload bucket key id, answer⟩] := by
  refine .lift_bind (.request_bind fun answer after _ => ?_)
  cases answer with
  | ok answer => exact .silent rfl ⟨rfl, _, rfl⟩
  | error fault => exact .silent rfl ⟨rfl, _, rfl⟩

theorem sends_uploadStream (bucket key : String) (source : StreamHandle) {partSize length : Nat}
    (larger : partSize < length) :
    (uploadStream send.noting bucket key source partSize length).Sends world
      fun outcome sent _ => Transferred bucket key partSize length outcome sent := by
  refine .bind (sends_startUpload bucket key larger) ?_ ?_
  · rintro fault sent _ (⟨_, started, -⟩ | ⟨_, reason, refusal, -, -, transferred⟩)
    · cases started
    · obtain rfl := Except.error.inj refusal
      exact transferred
  · rintro id _ _ (⟨_, started, rfl⟩ | ⟨_, _, refusal, -⟩)
    · obtain rfl := Except.ok.inj started
      refine .attempt_bind (sends_uploadParts bucket key id source partSize 0 length 1) ?_
      intro outcome parts after sent
      cases outcome with
      | ok listed =>
          refine (sends_completeUpload bucket key id listed).mono ?_
          rintro _ _ _ (⟨answer, rfl, rfl⟩ | ⟨fault, rfl, rfl⟩)
          · exact .completed id sent answer larger
          · exact .notCompleted id sent fault larger
      | error fault =>
          refine .bind (sends_abortUpload bucket key id) ?_ ?_
          · rintro _ _ _ ⟨aborts, -⟩
            cases aborts
          · rintro _ _ _ ⟨-, answer, rfl⟩
            exact .fail (.aborted id sent answer larger)
    · cases refusal

end Sends

section Deposits

variable {δ : Type} {send : StoreChannel δ} {place : Cell δ BucketDepot}
  {world : World (δ × Transcript)}

theorem sends_issuing {action : Action (δ × Transcript) Unit} {topic bucket key : String}
    {partSize length : Nat}
    (sends : action.Sends world fun outcome sent _ =>
      Transferred bucket key partSize length outcome sent) :
    Action.Sends (do action; Action.lift (issue topic bucket key length)) world
      fun outcome sent _ => Deposited bucket partSize length outcome sent := by
  refine .bind sends (fun fault _ _ transferred => ⟨key, _, transferred, rfl⟩) ?_
  intro _ sent _ transferred
  refine .silent rfl ⟨key, .ok (), ?_, rfl⟩
  rwa [List.append_nil]

theorem sends_deposit (topic bucket : String) (payload : ByteArray) :
    (deposit send.noting topic payload bucket).Sends world fun outcome sent _ =>
      Deposited bucket payload.size payload.size outcome sent :=
  .silent_bind rfl (sends_issuing (sends_put bucket _ le_rfl))

theorem sends_depositStream (topic bucket : String) (source : StreamHandle) (length : Nat) :
    (depositStream send.noting place.beside topic source length bucket).Sends world
      fun outcome sent _ =>
        Deposited bucket (place.read world.state.1).settings.partSize length outcome sent := by
  refine .silent_bind rfl (.silent_bind rfl ?_)
  rw [Cell.on_load]
  dsimp only
  split
  · next fits =>
    refine .bind (sends_readPart source length 0) ?_ ?_
    · rintro fault _ _ ⟨rfl, -⟩
      exact ⟨default, _, .unread fault, rfl⟩
    · rintro body _ _ ⟨rfl, size⟩
      obtain rfl : body.size = length := size body rfl
      exact sends_issuing (sends_put bucket _ fits)
  · next larger =>
    exact sends_issuing (sends_uploadStream bucket _ source (Nat.lt_of_not_le larger))

/-- What is sent for a check-in is for the bucket first, and then for the payload if the bucket was
obtained. -/
theorem sends_checkInStream (topic : String) (source : StreamHandle) (length : Nat) :
    (checkInStream send.noting place.beside topic source length).Sends world fun outcome sent _ =>
      ∃ checks uploads, sent = checks ++ uploads ∧
        (∀ exchange ∈ checks, exchange.request.asksForBucket = true) ∧
          ((uploads = [] ∧ ∃ fault, outcome = .error fault) ∨
            ∃ bucket partSize, Deposited bucket partSize length outcome uploads) := by
  rw [checkInStream_eq]
  refine .bind (sends_bucket place topic) ?_ ?_
  · intro fault checks _ asks
    exact ⟨checks, [], by simp, asks, .inl ⟨rfl, fault, rfl⟩⟩
  · intro bucket checks _ asks
    refine (sends_depositStream topic bucket source length).mono ?_
    intro outcome uploads _ deposited
    exact ⟨checks, uploads, rfl, asks, .inr ⟨bucket, _, deposited⟩⟩

end Deposits

end BucketDepot

end PayloadDepot
