import PayloadDepot.Storage.Bucket.Exchange
import PayloadDepot.Table

/-!
# An object store

A store that serves every request on the buckets and objects it holds.  An
upload collects parts, which are numbered from one on, until it is completed,
which puts the listed parts one after the other under the key, or aborted, which
forgets them.
-/

namespace PayloadDepot

structure OpenUpload where
  bucket : String
  key : String
  parts : Table Int32 ByteArray := .empty

/-- The buckets and objects of a store and the uploads that are open. -/
structure ObjectStore where
  buckets : List String := []
  objects : Table (String × String) ByteArray := .empty
  uploads : Table String OpenUpload := .empty
  uploadsStarted : Nat := 0

namespace ObjectStore

def noSuchBucket : StoreFault := .refused "NoSuchBucket"

def noSuchUpload : StoreFault := .refused "NoSuchUpload"

def tagOf (number : Int32) : String :=
  s!"tag{number}"

/-- The listed parts of an upload, one after the other, if all of them are there. -/
def assemble (parts : Table Int32 ByteArray) : List Int32 → Option ByteArray
  | [] => some ByteArray.empty
  | number :: later =>
      match parts.get? number, assemble parts later with
      | some body, some rest => some (body ++ rest)
      | _, _ => none

def withoutUpload (store : ObjectStore) (upload : String) : Table String OpenUpload :=
  ⟨store.uploads.entries.filter (fun entry => entry.1 ≠ upload)⟩

def serve (request : StoreRequest) (store : ObjectStore) :
    Except StoreFault StoreAnswer × ObjectStore :=
  match request with
  | .headBucket bucket =>
      if bucket ∈ store.buckets then (.ok .done, store) else (.error (.refused "NotFound"), store)
  | .createBucket bucket _ =>
      if bucket ∈ store.buckets then (.error (.refused "BucketAlreadyOwnedByYou"), store)
      else (.ok .done, { store with buckets := store.buckets ++ [bucket] })
  | .putObject bucket key body =>
      if bucket ∈ store.buckets then
        (.ok .done, { store with objects := store.objects.insert (bucket, key) body })
      else (.error noSuchBucket, store)
  | .createUpload bucket key =>
      if bucket ∈ store.buckets then
        let id := s!"up{store.uploadsStarted + 1}"
        (.ok (.upload (some id)),
          { store with
            uploads := store.uploads.insert id { bucket := bucket, key := key }
            uploadsStarted := store.uploadsStarted + 1 })
      else (.error noSuchBucket, store)
  | .uploadPart _ _ upload number body =>
      match store.uploads.get? upload with
      | none => (.error noSuchUpload, store)
      | some started =>
          if number < 1 then (.error (.refused "InvalidArgument"), store)
          else
            (.ok (.part (some (tagOf number))),
              { store with
                uploads := store.uploads.insert upload
                  { started with parts := started.parts.insert number body } })
  | .completeUpload _ _ upload parts =>
      match store.uploads.get? upload with
      | none => (.error noSuchUpload, store)
      | some started =>
          match assemble started.parts (parts.map Prod.fst) with
          | none => (.error (.refused "InvalidPart"), store)
          | some body =>
              (.ok .done,
                { store with
                  objects := store.objects.insert (started.bucket, started.key) body
                  uploads := store.withoutUpload upload })
  | .abortUpload _ _ upload =>
      match store.uploads.get? upload with
      | none => (.error noSuchUpload, store)
      | some _ => (.ok .done, { store with uploads := store.withoutUpload upload })
  | .getObject bucket key =>
      if bucket ∈ store.buckets then
        match store.objects.get? (bucket, key) with
        | some body => (.ok (.object (.ofBytes body)), store)
        | none => (.error (.refused "NoSuchKey"), store)
      else (.error noSuchBucket, store)

end ObjectStore

end PayloadDepot
