import Mathlib.Algebra.Group.Nat.Defs
import PayloadDepot.Proofs.Storage.Bucket.Channel

/-!
# Uploads in parts

A stream is sent part by part, and no part is sent twice: before the numbers
begin again, one comes that no store takes.  So the parts that are listed at the
end are those that were read, in their order, and an upload that is completed
puts the declared bytes of the stream under its key.
-/

namespace PayloadDepot

namespace BucketDepot

variable {δ : Type} {send : StoreChannel δ} {account : StoreAccount δ} {source : StreamHandle}
  {length before : Nat} {world after : World δ} {bucket key id : String} {body : ByteArray}

section Parts

/-- A part is read like a stream with a declared length. -/
theorem of_readPart_ok
    (read : Action.on (readPart source length before) world = (.ok body, after)) :
    source.Delivers length world body ∧
      source.available after = (source.available world).drop length ∧
        (after.holdings, after.files) = (world.holdings, world.files) := by
  apply Depot.of_readDeclared_ok
  rw [readPart, Action.on_lift_bind] at read
  rw [Depot.readDeclared, Action.on_lift_bind]
  cases taken : (Effect.on (source.take length) world).1 with
  | error fault =>
      rw [taken] at read
      cases read
  | ok bytes =>
      rw [taken] at read
      dsimp only at read ⊢
      split at read
      · next whole =>
        rw [if_pos whole]
        exact read
      · cases read

theorem of_uploadPart_ok {number : Int32} {tag : Option String}
    (sent : Action.on (uploadPart send bucket key id number body) world = (.ok tag, after)) :
    ∃ answer, Effect.on (send (.uploadPart bucket key id number body)) world =
      (.ok answer, after) := by
  rw [uploadPart, Action.on_lift_bind] at sent
  rcases served : Effect.on (send (.uploadPart bucket key id number body)) world with
    ⟨fault | answer, last⟩ <;> rw [served] at sent
  · cases sent
  · cases answer with
    | part tag | done | upload _ | object _ =>
      cases sent
      exact ⟨_, rfl⟩

end Parts

section Numbers

/-- The word behind that of a number is that of the next one. -/
theorem ofNat_succ (count : Nat) : Int32.ofNat count + 1 = Int32.ofNat (count + 1) :=
  (Int32.ofNat_add count 1).symm

theorem ofNat_ne_of_lt {count other : Nat} (below : other < count) (bound : count < 2 ^ 31) :
    Int32.ofNat other ≠ Int32.ofNat count := by
  intro same
  have values := congrArg Int32.toInt same
  rw [Int32.toInt_ofNat_of_lt (below.trans bound), Int32.toInt_ofNat_of_lt bound] at values
  omega

/-- The words of so many numbers, from some number on. -/
def partNumbers (first count : Nat) : List Int32 :=
  (List.range' first count).map .ofNat

theorem partNumbers_succ (first count : Nat) :
    partNumbers first (count + 1) = .ofNat first :: partNumbers (first + 1) count := by
  rw [partNumbers, List.range'_succ, List.map_cons, partNumbers]

/-- Until the words begin again, they are the numbers themselves. -/
theorem map_toInt_of_words {α : Type} {items : List α} {number : α → Int32}
    (words : items.map number = partNumbers 1 items.length) (few : items.length < 2 ^ 31) :
    items.map (fun item => (number item).toInt) = (List.range' 1 items.length).map Int.ofNat :=
  calc items.map (fun item => (number item).toInt)
      = (items.map number).map Int32.toInt := by
        rw [List.map_map]
        rfl
    _ = (List.range' 1 items.length).map fun count => (Int32.ofNat count).toInt := by
        rw [words, partNumbers, List.map_map]
        rfl
    _ = (List.range' 1 items.length).map Int.ofNat := by
        refine List.map_congr_left fun count mem => ?_
        have within := (List.mem_range'_1.mp mem).2
        exact Int32.toInt_ofNat_of_lt (by omega)

/-- The word that comes behind the greatest one is negative. -/
theorem lt_of_one_le_ofNat {count : Nat} (bound : count ≤ 2 ^ 31) (taken : 1 ≤ Int32.ofNat count) :
    count < 2 ^ 31 := by
  refine Nat.lt_of_le_of_ne bound ?_
  rintro rfl
  exact absurd taken (by decide)

end Numbers

section Uploads

variable {partSize remaining count : Nat} {parts : Table Int32 ByteArray}
  {listed : List (Int32 × Option String)}

/-- The parts that are sent, from some number on, hold the next bytes of the stream, and the parts
before them stay as they are. -/
theorem of_uploadParts_ok (reliable : send.Reliable account) (positive : 0 < partSize)
    (bound : count ≤ 2 ^ 31)
    (opened : account.upload world.state id = some ⟨bucket, key, parts⟩)
    (sent : Action.on (uploadParts send bucket key id source partSize before remaining
      (.ofNat count)) world = (.ok listed, after)) :
    ∃ later body, account.upload after.state id = some ⟨bucket, key, later⟩ ∧
      (∀ earlier < count, later.get? (.ofNat earlier) = parts.get? (.ofNat earlier)) ∧
        ObjectStore.assemble later (listed.map Prod.fst) = some body ∧
          source.Delivers remaining world body := by
  induction remaining using Nat.strong_induction_on
    generalizing before count world parts listed with
  | h remaining inductionHypothesis =>
    rw [uploadParts] at sent
    split at sent
    · next nothing =>
      obtain rfl : remaining = 0 := nothing.resolve_right (Nat.ne_of_gt positive)
      cases sent
      exact ⟨parts, ByteArray.empty, opened, fun _ _ => rfl, rfl, ⟨rfl, rfl⟩⟩
    · next more =>
      let length := min remaining partSize
      rcases read : Action.on (readPart source length before) world with ⟨fault | body, middle⟩
      · rw [Action.on_bind_of_error read] at sent
        cases sent
      rw [Action.on_bind_of_ok read] at sent
      rcases uploaded : Action.on (uploadPart send bucket key id (.ofNat count) body) middle
        with ⟨fault | tag, between⟩
      · rw [Action.on_bind_of_error uploaded] at sent
        cases sent
      rw [Action.on_bind_of_ok uploaded] at sent
      rcases rest : Action.on (uploadParts send bucket key id source partSize (before + length)
        (remaining - length) (.ofNat count + 1)) between with ⟨fault | others, last⟩
      · rw [Action.on_bind_of_error rest] at sent
        cases sent
      rw [Action.on_bind_of_ok rest] at sent
      cases sent
      obtain ⟨delivers, left, same⟩ := of_readPart_ok read
      obtain ⟨answer, served⟩ := of_uploadPart_ok uploaded
      have sameState : middle.state = world.state := congrArg (fun left => left.1.1) same
      have extended := reliable.part_uploaded (sameState ▸ opened) served
      have within := lt_of_one_le_ofNat bound (reliable.part_numbered served)
      rw [ofNat_succ] at rest
      obtain ⟨later, more, held, earlier, assembled, moreDelivers⟩ :=
        inductionHypothesis (remaining - length) (by omega) within extended rest
      refine ⟨later, body ++ more, held, fun other below => ?_, ?_, ?_⟩
      · rw [earlier other (by omega), Table.get?_insert_of_ne (ofNat_ne_of_lt below within)]
      · have own : later.get? (.ofNat count) = some body := by
          rw [earlier count (by omega), Table.get?_insert_self]
        simp [ObjectStore.assemble, own, assembled]
      · have confined := reliable.confined (.uploadPart bucket key id (.ofNat count) body) middle
        rw [served] at confined
        have available := (StreamHandle.available_congr (congrArg Prod.fst confined)).trans left
        have whole := delivers.append available moreDelivers
        rwa [Nat.add_sub_cancel' (Nat.min_le_left remaining partSize)] at whole

/-- An object that was put is served. -/
theorem of_putObject_ok
    (put : Action.on (putObject send bucket key body) world = (.ok (), after)) :
    ∃ answer, Effect.on (send (.putObject bucket key body)) world = (.ok answer, after) := by
  rw [putObject, Action.on_lift_bind] at put
  rcases served : Effect.on (send (.putObject bucket key body)) world with
    ⟨fault | answer, last⟩ <;> rw [served] at put <;> cases put
  exact ⟨answer, rfl⟩

theorem of_startUpload_ok
    (started : Action.on (startUpload send bucket key) world = (.ok id, after)) :
    Effect.on (send (.createUpload bucket key)) world = (.ok (.upload (some id)), after) := by
  rw [startUpload, Action.on_lift_bind] at started
  rcases served : Effect.on (send (.createUpload bucket key)) world with
    ⟨fault | answer, last⟩ <;> rw [served] at started
  · cases started
  · cases answer with
    | done | part _ | object _ => cases started
    | upload given =>
        cases given with
        | none => cases started
        | some given =>
            cases started
            rfl

theorem of_completeUpload_ok
    (completed : Action.on (completeUpload send bucket key id listed) world = (.ok (), after)) :
    ∃ answer, Effect.on (send (.completeUpload bucket key id listed)) world =
      (.ok answer, after) := by
  rw [completeUpload, Action.on_lift_bind] at completed
  rcases served : Effect.on (send (.completeUpload bucket key id listed)) world with
    ⟨fault | answer, last⟩ <;> rw [served] at completed <;> cases completed
  exact ⟨answer, rfl⟩

/-- A stream that was sent as an upload lies under its key. -/
theorem of_uploadStream_ok (reliable : send.Reliable account) (positive : 0 < partSize)
    (sent : Action.on (uploadStream send bucket key source partSize length) world =
      (.ok (), after)) :
    ∃ body, source.Delivers length world body ∧
      account.object after.state bucket key = some body := by
  rw [uploadStream] at sent
  rcases begins : Action.on (startUpload send bucket key) world with ⟨fault | id, middle⟩
  · rw [Action.on_bind_of_error begins] at sent
    cases sent
  rw [Action.on_bind_of_ok begins, Action.on_lift_bind, Effect.on_attempt] at sent
  rcases ran : Action.on (uploadParts send bucket key id source partSize 0 length 1) middle with
    ⟨fault | listed, last⟩ <;> rw [ran] at sent
  · cases sent
  have started := of_startUpload_ok begins
  obtain ⟨parts, opened⟩ := reliable.upload_created started
  obtain ⟨later, body, held, -, assembled, delivers⟩ :=
    of_uploadParts_ok reliable positive (by decide) opened ran
  obtain ⟨answer, completed⟩ := of_completeUpload_ok sent
  have confined := reliable.confined (.createUpload bucket key) world
  rw [started] at confined
  have available : source.available middle = source.available world :=
    StreamHandle.available_congr (congrArg Prod.fst confined)
  exact ⟨body, ⟨available ▸ delivers.bytes, delivers.size⟩,
    reliable.upload_completed held assembled completed⟩

end Uploads

end BucketDepot

end PayloadDepot
