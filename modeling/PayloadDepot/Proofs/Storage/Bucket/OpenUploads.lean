import PayloadDepot.Proofs.Storage.Bucket.Transfer
import PayloadDepot.Proofs.Storage.Issued

/-!
# Uploads that are left open

A stream that is checked in opens at most one upload, and a reference is given
exactly if the payload was put or its upload was completed.  An upload that
cannot go on because a part cannot be read or sent is aborted.  One whose parts
were all sent, but whose completion the store refuses, is neither completed nor
aborted: it is the only one that is left open.
-/

namespace PayloadDepot

/-- An upload to a store. -/
structure StoreUpload where
  bucket : String
  key : String
  id : String
deriving DecidableEq

namespace StoreExchange

/-- The upload that the store opened with its answer. -/
def opens : StoreExchange → Option StoreUpload
  | ⟨.createUpload bucket key, .ok (.upload (some id))⟩ => some ⟨bucket, key, id⟩
  | _ => none

def completes : StoreExchange → Option StoreUpload
  | ⟨.completeUpload bucket key id _, .ok _⟩ => some ⟨bucket, key, id⟩
  | _ => none

/-- The upload whose completion the store refused. -/
def missesCompletion : StoreExchange → Option StoreUpload
  | ⟨.completeUpload bucket key id _, .error _⟩ => some ⟨bucket, key, id⟩
  | _ => none

/-- The upload that was to be aborted, whatever the store answered. -/
def aborts : StoreExchange → Option StoreUpload
  | ⟨.abortUpload bucket key id, _⟩ => some ⟨bucket, key, id⟩
  | _ => none

/-- The store took a payload: it was put as one object, or its upload was completed. -/
def stores : StoreExchange → Bool
  | ⟨.putObject _ _ _, .ok _⟩ => true
  | ⟨.completeUpload _ _ _ _, .ok _⟩ => true
  | _ => false

end StoreExchange

namespace BucketDepot

/-- What becomes of the uploads that are opened: they are completed or aborted unless their
completion is refused. -/
def Settles (sent : Transcript) : Prop :=
  ∀ upload ∈ sent.filterMap (·.opens),
    upload ∈ sent.filterMap (·.completes) ∨ upload ∈ sent.filterMap (·.aborts) ↔
      upload ∉ sent.filterMap (·.missesCompletion)

section Parts

variable {α : Type} {bucket key id : String} {partSize remaining : Nat} {number : Int32}
  {outcome : Except Fault (List (Int32 × Option String))} {parts : Transcript}

theorem PartsSent.filterMap_eq_nil
    (sent : PartsSent bucket key id partSize remaining number outcome parts)
    {find : StoreExchange → Option α}
    (overlooks : ∀ number body answer,
      find ⟨.uploadPart bucket key id number body, answer⟩ = none) :
    parts.filterMap find = [] := by
  rw [List.filterMap_eq_nil_iff]
  rintro ⟨request, answer⟩ mem
  obtain ⟨number, body, rfl⟩ := sent.uploads _ mem
  exact overlooks number body answer

theorem PartsSent.any_stores
    (sent : PartsSent bucket key id partSize remaining number outcome parts) :
    parts.any (·.stores) = false := by
  rw [List.any_eq_false]
  rintro ⟨request, answer⟩ mem
  obtain ⟨number, body, rfl⟩ := sent.uploads _ mem
  simp [StoreExchange.stores]

end Parts

section Transfers

variable {bucket key : String} {partSize length : Nat} {outcome : Except Fault Unit}
  {sent : Transcript}

theorem Transferred.stores_iff (transferred : Transferred bucket key partSize length outcome sent) :
    (∃ value, outcome = .ok value) ↔ sent.any (·.stores) = true := by
  cases transferred with
  | unread | put | notPut | notStarted | withoutId => simp [StoreExchange.stores]
  | completed id parts | notCompleted id parts | aborted id parts =>
      rw [List.any_cons, List.any_append, parts.any_stores]
      simp [StoreExchange.stores]

theorem Transferred.settles (transferred : Transferred bucket key partSize length outcome sent) :
    Settles sent := by
  cases transferred with
  | unread | put | notPut | notStarted => simp [Settles, StoreExchange.opens]
  | withoutId answer noId =>
      have opensNothing : StoreExchange.opens ⟨.createUpload bucket key, .ok answer⟩ = none := by
        cases answer with
        | done | part | object => rfl
        | upload given =>
            cases given with
            | none => rfl
            | some id => exact absurd rfl (noId id)
      simp [Settles, opensNothing]
  | completed id parts | notCompleted id parts | aborted id parts =>
      simp [Settles, StoreExchange.opens, StoreExchange.completes, StoreExchange.missesCompletion,
        StoreExchange.aborts, parts.filterMap_eq_nil]

end Transfers

section Checks

variable {α : Type} {checks uploads : Transcript}
  (asks : ∀ exchange ∈ checks, exchange.request.asksForBucket = true)

include asks

/-- What asks for buckets is overlooked by whoever looks for uploads. -/
theorem filterMap_checks_append {find : StoreExchange → Option α}
    (overlooks : ∀ exchange : StoreExchange, exchange.request.asksForBucket = true →
      find exchange = none) :
    (checks ++ uploads).filterMap find = uploads.filterMap find := by
  have nothing : checks.filterMap find = [] :=
    List.filterMap_eq_nil_iff.mpr fun exchange mem => overlooks exchange (asks exchange mem)
  rw [List.filterMap_append, nothing, List.nil_append]

theorem any_checks_append : (checks ++ uploads).any (·.stores) = uploads.any (·.stores) := by
  have nothing : checks.any (·.stores) = false := by
    refine List.any_eq_false.mpr fun exchange mem => ?_
    have asked := asks exchange mem
    rcases exchange with ⟨request, answer⟩
    cases request <;> simp_all [StoreExchange.stores, StoreRequest.asksForBucket]
  rw [List.any_append, nothing, Bool.false_or]

theorem settles_checks_append (settles : Settles uploads) : Settles (checks ++ uploads) := by
  have overlook (exchange : StoreExchange) (asked : exchange.request.asksForBucket = true) :
      exchange.opens = none ∧ exchange.completes = none ∧ exchange.aborts = none ∧
        exchange.missesCompletion = none := by
    rcases exchange with ⟨request, answer⟩
    cases request with
    | headBucket | createBucket => exact ⟨rfl, rfl, rfl, rfl⟩
    | putObject | createUpload | uploadPart | completeUpload | abortUpload | getObject =>
        cases asked
  rw [Settles, filterMap_checks_append asks fun exchange asked => (overlook exchange asked).1,
    filterMap_checks_append asks fun exchange asked => (overlook exchange asked).2.1,
    filterMap_checks_append asks fun exchange asked => (overlook exchange asked).2.2.1,
    filterMap_checks_append asks fun exchange asked => (overlook exchange asked).2.2.2]
  exact settles

end Checks

/-- Whatever the store answers and whatever the stream delivers, a reference is given exactly if the
store took the payload, and every upload that the store opened is completed or aborted unless its
completion was refused. -/
theorem checkInStream_settles {δ : Type} (send : StoreChannel δ) (place : Cell δ BucketDepot)
    (topic : String) (source : StreamHandle) (length : Nat) (world : World (δ × Transcript)) :
    ((depot send.noting place.beside).checkInStream topic source length).Sends world
      fun outcome sent _ =>
        ((∃ reference, outcome = .ok reference) ↔ sent.any (·.stores) = true) ∧ Settles sent := by
  refine (sends_checkInStream topic source length).mono ?_
  rintro outcome _ _ ⟨checks, uploads, rfl, asks, ⟨rfl, fault, rfl⟩ | ⟨bucket, partSize, deposited⟩⟩
  · have opensNothing : Settles [] := by simp [Settles]
    refine ⟨?_, settles_checks_append asks opensNothing⟩
    rw [any_checks_append asks]
    simp
  · obtain ⟨key, verdict, transferred, rfl⟩ := deposited
    refine ⟨?_, settles_checks_append asks transferred.settles⟩
    rw [any_checks_append asks, ← transferred.stores_iff]
    cases verdict with
    | ok value => exact ⟨fun _ => ⟨value, rfl⟩, fun _ => ⟨_, rfl⟩⟩
    | error fault => simp [Except.map]

/-- The channel to a store that completes no upload. -/
def refusingCompletion {δ : Type} (send : StoreChannel δ) : StoreChannel δ
  | .completeUpload _ _ _ _ => return .error (.refused "AccessDenied")
  | request => send request

/-- An upload is left open when the store refuses to complete it. -/
theorem checkInStream_leaves_open :
    let send : StoreChannel (ObjectStore × BucketDepot) := refusingCompletion (.toStore .left)
    let ran := Action.on ((depot send.noting (Cell.beside .right)).checkInStream "orders" ⟨0⟩ 7)
      besideStream.unnoted
    let upload : StoreUpload := ⟨"orders", "00000000-0000-4000-8000-000000000000", "up1"⟩
    ran.2.state.2.filterMap (·.opens) = [upload] ∧
      ran.2.state.2.filterMap (·.completes) = [] ∧ ran.2.state.2.filterMap (·.aborts) = [] := by
  decide +kernel

end BucketDepot

end PayloadDepot
