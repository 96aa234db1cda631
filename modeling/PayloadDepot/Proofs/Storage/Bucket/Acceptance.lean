import PayloadDepot.Proofs.Storage.Bucket.Streaming

/-!
# Stores that accept everything

A store may accept whatever is sent to it.  A stream that has the declared length
is then checked in, however many parts it takes, and so is every payload.
-/

namespace PayloadDepot

namespace BucketDepot

section Accepting

variable {δ : Type} {send : StoreChannel δ} {place : Cell δ BucketDepot} {mayCreate : Bool}

/-- The store behind a channel accepts whatever is sent to it. -/
def Accepts (send : StoreChannel δ) (mayCreate : Bool) : Prop :=
  ∀ request world,
    StoreExchange.accepted mayCreate ⟨request, (Effect.on (send request) world).1⟩ = true

variable (accepts : Accepts send mayCreate)

include accepts

theorem leaves_accepted (request : StoreRequest) :
    (send.noting request).Leaves fun world => world.state.2.all (·.accepted mayCreate) := by
  intro world
  rcases served : Effect.on (send.noting request) world with ⟨answer, after⟩
  obtain ⟨inside, noted⟩ := StoreChannel.of_noting served
  have accepted := accepts request world.inside
  rw [inside] at accepted
  dsimp only
  rw [noted, List.all_append, List.all_cons, accepted, List.all_nil, Bool.and_true, Bool.and_true]

/-- All that is sent for a stream or a payload is accepted. -/
theorem accepted_checkIns (place : Cell δ BucketDepot) (topic : String) :
    (∀ source length, (checkInStream send.noting place.beside topic source length).Leaves
      fun world : World (δ × Transcript) => world.state.2.all (·.accepted mayCreate)) ∧
    ∀ payload, (checkIn send.noting place.beside topic payload).Leaves
      fun world : World (δ × Transcript) => world.state.2.all (·.accepted mayCreate) := by
  let observe (world : World (δ × Transcript)) := world.state.2.all (·.accepted mayCreate)
  have steady : World.Steady observe :=
    ⟨fun _ _ _ => rfl, fun _ _ _ => rfl, fun _ => rfl⟩
  have sends := leaves_accepted accepts
  have buckets : (bucket send.noting place.beside topic).Leaves observe :=
    leaves_bucket sends steady.notes (fun _ _ => rfl) topic
  constructor
  · intro source length
    rw [checkInStream_eq]
    exact buckets.bind fun name => leaves_depositStream steady sends topic source length name
  · intro payload
    rw [checkIn_eq]
    exact buckets.bind fun name => leaves_deposit steady sends topic payload name

end Accepting

section Plenty

open StoreSettings

/-- A store that takes everything. -/
def roomy : StoreChannel BucketDepot := fun request =>
  return .ok (match request with
    | .createUpload _ _ => .upload (some "upload")
    | _ => .done)

theorem accepts_roomy (mayCreate : Bool) : Accepts roomy mayCreate := by
  intro request world
  cases request <;> rfl

theorem leaves_roomy (request : StoreRequest) : (roomy request).Leaves World.supplies :=
  fun _ => rfl

theorem spares_roomy : roomy.Spares .whole :=
  fun _ _ => rfl

/-- The plan with the standard credentials and the least part size. -/
def leastParts : Plan where
  options := (Table.empty.insert Keys.credentials "default").insert Keys.partSize "5242880"

def leastPartSettings : StoreSettings where
  endpoint := none
  region := defaultRegion
  bucketLead := ""
  forcePathStyle := false
  credentials := .standard
  partSize := leastPartSize
  createsBuckets := false

theorem ofPlan_leastParts : ofPlan leastParts = .ok leastPartSettings := by
  rfl

/-- A new depot with these settings, and a stream of some number of bytes. -/
def plenty (bytes : Nat) : World BucketDepot :=
  { World.initial 0 .empty { settings := leastPartSettings } with
    readers := #[.ofBytes ⟨Array.replicate bytes 0⟩] }

theorem fits_plenty (bytes : Nat) :
    (Cell.whole.read (plenty bytes).unnoted.state.1).Fits leastPartSettings :=
  fits_initial leastPartSettings

theorem length_available_plenty (bytes : Nat) :
    (StreamHandle.available ⟨0⟩ (plenty bytes).unnoted).length = bytes := by
  have items : StreamHandle.items ⟨0⟩ (plenty bytes).unnoted =
      (Array.replicate bytes (0 : UInt8)).toList.map .byte ++ [] := by
    rw [List.append_nil]
    exact Reader.items_ofBytes _
  rw [StreamHandle.available, items, Item.available_append]
  simp [Item.available]

/-- All of the stream is checked in. -/
theorem checkInStream_plenty (topic : String) (bytes : Nat) : ∃ reference,
    (Action.on (checkInStream roomy.noting Cell.whole.beside topic ⟨0⟩ bytes)
      (plenty bytes).unnoted).1 = .ok reference := by
  have told := (sends_checkInStream_streams leaves_roomy spares_roomy Cell.lawful_whole
    (fits_plenty bytes) topic (by decide) ⟨0⟩ bytes).of_unnoted
  have accepted := (accepted_checkIns (accepts_roomy false) .whole topic).1 ⟨0⟩ bytes
    (plenty bytes).unnoted
  obtain ⟨_, _, -, -, -, streams⟩ := told accepted
  exact (streams.enough (length_available_plenty bytes).ge).1

theorem checkIn_plenty (topic : String) (payload : ByteArray) : ∃ reference,
    (Action.on (checkIn roomy.noting Cell.whole.beside topic payload) (plenty 0).unnoted).1 =
      .ok reference := by
  have told := (sends_checkIn_accepted leaves_roomy spares_roomy Cell.lawful_whole
    (fits_plenty 0) topic payload).of_unnoted
  exact told ((accepted_checkIns (accepts_roomy false) .whole topic).2 payload (plenty 0).unnoted)

end Plenty

end BucketDepot

end PayloadDepot
