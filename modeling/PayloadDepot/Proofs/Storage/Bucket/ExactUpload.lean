import PayloadDepot.Proofs.Storage.Bucket.Acceptance

/-!
# Exact uploads

If the store accepts all that is sent to it, a stream that has the declared
length is sent byte for byte and left just behind what was sent, and the
reference leads to these bytes.  One that ends before the declared length is
refused with the number of bytes that it had, and nothing is stored.  Streams may
be so long that the words for the numbers of their parts begin again, and those
that fail are refused with their own fault.
-/

namespace PayloadDepot

namespace BucketDepot

variable {δ : Type} {send : StoreChannel δ} {place : Cell δ BucketDepot}
  {source : StreamHandle} {length : Nat} {world : World (δ × Transcript)}

/-- What a reference to a stream stands for that was checked in for some length. -/
structure Exact (depot : Depot (δ × Transcript)) (settings : StoreSettings) (topic : String)
    (source : StreamHandle) (length : Nat) (world : World (δ × Transcript))
    (reference : Reference) (payload : ByteArray) (sent : Transcript)
    (after : World (δ × Transcript)) : Prop where
  /-- The payload is what the stream has up to the length. -/
  delivers : source.Delivers length world payload
  /-- The stream is left just behind it. -/
  left : source.items after = Item.behind length (source.items world)
  /-- It is sent as one object or as the parts of one upload, behind what asks for the bucket. -/
  shipped : ∃ key checks uploads, reference = .compose scheme (settings.bucket topic) key ∧
    sent = checks ++ uploads ∧ (∀ exchange ∈ checks, exchange.request.asksForBucket = true) ∧
      Shipped (settings.bucket topic) key settings.partSize length uploads
  /-- What is sent carries the payload, byte for byte. -/
  carried : sent.flatMap (·.carried) = payload.data.toList
  /-- The payload is handed out under the reference. -/
  redeems : depot.Redeems reference payload after
  /-- The same holds if it is checked in as a whole instead. -/
  whole : (depot.checkIn topic payload).Sends world fun outcome sent last =>
    sent.all (·.accepted settings.createsBuckets) = true →
      ∃ other, outcome = .ok other ∧ depot.Redeems other payload last

/-- At any point of a run, if the store accepts all that is sent to it, a stream that has the
declared length is checked in exactly; one that ends before is refused with the number of bytes that
it had, and nothing is stored. -/
theorem checkInStream_exact {account : StoreAccount δ} {settings : StoreSettings}
    {start : World (δ × Transcript)} (reliable : send.Reliable account)
    (spares : send.Spares place) (lawful : place.Lawful) (positive : 0 < settings.partSize)
    (identifiers : ∀ number, BlobName.IsIdentifier (start.nameSource number))
    (new : place.read start.state.1 = { settings := settings })
    (leads : (depot send.noting place.beside).Leads place.beside start world) (topic : String)
    (source : StreamHandle) (length : Nat) :
    ((depot send.noting place.beside).checkInStream topic source length).Sends world
      fun outcome sent after => sent.all (·.accepted settings.createsBuckets) = true →
        (length ≤ (source.available world).length → ∃ reference payload,
          outcome = .ok reference ∧ Exact (depot send.noting place.beside) settings topic source
            length world reference payload sent after) ∧
        ((source.available world).length < length → source.Ends world →
          outcome = .error (.contract (.partShort (source.available world).length)) ∧
            sent.any (·.stores) = false) := by
  have lawfulToo := Cell.lawful_beside (δ := δ) lawful
  have stands := leads.stands (.of_held_eq (Prod.ext new rfl) (fits_initial settings))
    fun step stands => stands_step reliable.noting spares.noting lawfulToo stands step
  have redeemed := redeemsIssued_of_stands reliable.noting spares.noting lawfulToo positive stands
    identifiers topic
  have sends := sends_checkInStream_streams reliable.confined spares lawful stands.fits topic
    positive source length
  refine sends.running.mono ?_
  rintro outcome sent after ⟨ran, told⟩ accepted
  obtain ⟨checks, uploads, rfl, asks, ⟨key, verdict, transferred, rfl⟩, streams⟩ := told accepted
  constructor
  · intro whole
    obtain ⟨⟨reference, given⟩, carried, left⟩ := streams.enough whole
    cases verdict with
    | error fault => cases given
    | ok value =>
        obtain rfl := Except.ok.inj given
        obtain ⟨payload, delivers, redeems⟩ := redeemed.checkInStream ran
        have nothing : checks.flatMap (·.carried) = [] :=
          List.flatMap_eq_nil_iff.mpr fun exchange mem =>
            carried_eq_nil_of_asks (asks exchange mem)
        refine ⟨_, payload, rfl, {
          delivers := delivers
          left := left
          shipped := ⟨key, checks, uploads, rfl, rfl, asks, transferred.shipped positive⟩
          carried := ?_
          redeems := redeems
          whole := ?_ }⟩
        · rw [List.flatMap_append, nothing, carried, delivers.bytes]
          rfl
        · refine (sends_checkIn_accepted reliable.confined spares lawful stands.fits topic
            payload).running.mono ?_
          rintro _ _ last ⟨wholeRan, toldToo⟩ acceptedToo
          obtain ⟨other, rfl⟩ := toldToo acceptedToo
          exact ⟨other, rfl, redeemed.checkIn wholeRan⟩
  · intro short ends
    have refused := streams.short short ends
    rw [Nat.zero_add] at refused
    refine ⟨refused, ?_⟩
    rw [any_checks_append asks, Bool.eq_false_iff]
    intro stored
    obtain ⟨value, rfl⟩ := transferred.stores_iff.mpr stored
    cases refused

/-- Of a stream of eight bytes seven are checked in, in three parts; nine are not. -/
theorem checkInStream_exact_threeParts :
    let depot : Depot ((ObjectStore × BucketDepot) × Transcript) :=
      depot (StoreChannel.noting (.toStore .left)) (Cell.beside .right)
    let world := besideStream.unnoted
    let settings := besideStream.state.2.settings
    let seven := Action.on (depot.checkInStream "orders" ⟨0⟩ 7) world
    let nine := Action.on (depot.checkInStream "orders" ⟨0⟩ 9) world
    (∃ reference payload, seven.1 = .ok reference ∧
        Exact depot settings "orders" ⟨0⟩ 7 world reference payload seven.2.state.2 seven.2) ∧
      seven.2.state.2.flatMap (·.carried) = "fourfiv".toUTF8.data.toList ∧
        nine.1 = .error (.contract (.partShort 8)) ∧ nine.2.state.2.any (·.stores) = false := by
  have identifiers : ∀ number, BlobName.IsIdentifier (besideStream.unnoted.nameSource number) :=
    BlobName.isIdentifier_ofNumber 0
  have new : Cell.right.read besideStream.unnoted.state.1 =
      { settings := besideStream.state.2.settings } := rfl
  have leads : (depot (StoreChannel.noting (.toStore .left)) (Cell.beside .right)).Leads
      (Cell.beside .right) besideStream.unnoted besideStream.unnoted := .refl
  have exactly := checkInStream_exact (ObjectStore.reliable_toStore Cell.lawful_left)
    (ObjectStore.spares_toStore Cell.apart_left_right) Cell.lawful_right (by decide) identifiers
    new leads "orders" ⟨0⟩
  have told := (exactly 7).of_unnoted
  have toldToo := (exactly 9).of_unnoted
  have ends : StreamHandle.Ends ⟨0⟩ besideStream.unnoted := by
    intro cause mem
    change .fault cause ∈ Reader.items ⟨[.chunk "four".toUTF8, .chunk "five".toUTF8]⟩ at mem
    simp [Reader.items, Delivery.items] at mem
  exact ⟨(told (by decide +kernel)).1 (by decide +kernel), by decide +kernel,
    (toldToo (by decide +kernel)).2 (by decide +kernel) ends⟩

/-- A store that accepts everything is sent a part with a negative number if a stream is long
enough.  A stream that fails has neither the declared length nor an end. -/
theorem checkInStream_inexact :
    let length := 2 ^ 31 * StoreSettings.leastPartSize
    let ran := Action.on (checkInStream roomy.noting Cell.whole.beside "orders" ⟨0⟩ length)
      (plenty length).unnoted
    let broken : IoFault := { kind := .other, text := "boom" }
    let failing : World BucketDepot :=
      { plenty 0 with readers := #[⟨[.chunk "abc".toUTF8, .fault broken]⟩] }
    let ranFailing := Action.on (checkInStream roomy.noting Cell.whole.beside "orders" ⟨0⟩ 5)
      failing.unnoted
    StoreSettings.ofPlan leastParts = .ok leastPartSettings ∧
      (length < 2 ^ 63 ∧ ran.2.state.2.all (·.accepted false) = true ∧
        ∃ bucket key id body answer,
          ⟨.uploadPart bucket key id Int32.minValue body, answer⟩ ∈ ran.2.state.2) ∧
        ranFailing.1 = .error (.io broken) := by
  have wraps (length : Nat) (long : (2 ^ 31 - 1) * StoreSettings.leastPartSize < length) :
      let ran := Action.on (checkInStream roomy.noting Cell.whole.beside "orders" ⟨0⟩ length)
        (plenty length).unnoted
      ran.2.state.2.all (·.accepted false) = true ∧ ∃ bucket key id body answer,
        ⟨.uploadPart bucket key id Int32.minValue body, answer⟩ ∈ ran.2.state.2 := by
    intro ran
    have accepted := (accepted_checkIns (accepts_roomy false) .whole "orders").1 ⟨0⟩ length
      (plenty length).unnoted
    obtain ⟨checks, uploads, sent, -, ⟨key, verdict, transferred, given⟩, -⟩ :=
      (sends_checkInStream_streams leaves_roomy spares_roomy Cell.lawful_whole (fits_plenty length)
        "orders" (by decide) ⟨0⟩ length).of_unnoted accepted
    obtain ⟨reference, issued⟩ := checkInStream_plenty "orders" length
    rw [issued] at given
    cases verdict with
    | error fault => cases given
    | ok value =>
        obtain ⟨id, body, answer, mem⟩ :=
          (transferred.shipped (by decide)).exists_least (by decide) long
        exact ⟨accepted, _, _, id, body, answer, sent ▸ List.mem_append_right checks mem⟩
  exact ⟨ofPlan_leastParts, ⟨by decide, wraps _ (by decide)⟩, by decide +kernel⟩

end BucketDepot

end PayloadDepot
