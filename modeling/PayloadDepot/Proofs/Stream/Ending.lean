import PayloadDepot.Proofs.Stream.Handle

/-!
# Streams that end

A stream ends if no fault but interruptions is still to come.  Reading such a
stream for more bytes than it has gives all of them, and no fault.  Reading in
two goes leaves a stream where reading once for as many bytes leaves it.  So
reading for a length ends in one of three ways: the stream ends within it, it is
stopped by a fault, or all bytes are read.
-/

namespace PayloadDepot

namespace Item

/-- Reading on goes through the items from the front. -/
theorem behind_suffix (needed : Nat) (items : List Item) : behind needed items <:+ items := by
  induction items generalizing needed with
  | nil => simp
  | cons item later inductionHypothesis =>
      cases needed with
      | zero => simp
      | succ needed =>
          have passing (fewer : Nat) : behind fewer later <:+ item :: later :=
            (inductionHypothesis fewer).trans (List.suffix_cons item later)
          cases item with
          | byte value => exact passing needed
          | fault cause =>
              rw [behind]
              split
              · exact passing (needed + 1)
              · exact List.suffix_cons _ later

/-- Bytes that are read after others are read behind them. -/
theorem behind_add {needed : Nat} {items : List Item} (enough : needed ≤ (available items).length)
    (more : Nat) : behind (needed + more) items = behind more (behind needed items) := by
  induction items generalizing needed with
  | nil => simp
  | cons item later inductionHypothesis =>
      cases needed with
      | zero => rw [Nat.zero_add, behind_zero]
      | succ needed =>
          rw [Nat.add_right_comm]
          cases item with
          | byte value => exact inductionHypothesis (Nat.le_of_succ_le_succ enough)
          | fault cause =>
              rw [available] at enough
              rw [behind, behind]
              split
              · next interrupted =>
                rw [if_pos interrupted] at enough
                rw [← inductionHypothesis enough, Nat.add_right_comm]
              · next stopped =>
                rw [if_neg stopped] at enough
                cases enough

end Item

namespace Reader

/-- A fault that stops reading was to come, and is no interruption. -/
theorem fault_takeFrom {collected : ByteArray} {needed : Nat} {deliveries : List Delivery}
    {cause : IoFault} (stopped : (takeFrom collected needed deliveries).fault = some cause) :
    .fault cause ∈ items ⟨deliveries⟩ ∧ cause.kind ≠ .interrupted := by
  fun_induction takeFrom collected needed deliveries with
  | case1 | case2 | case5 => cases stopped
  | case3 collected needed fault later interrupted inductionHypothesis =>
      obtain ⟨mem, other⟩ := inductionHypothesis stopped
      exact ⟨List.mem_append_right _ mem, other⟩
  | case4 collected needed fault later uninterrupted =>
      obtain rfl := Option.some.inj stopped
      exact ⟨List.mem_append_left _ List.mem_cons_self, uninterrupted⟩
  | case6 collected needed bytes later enough inductionHypothesis =>
      obtain ⟨mem, other⟩ := inductionHypothesis stopped
      exact ⟨List.mem_append_right _ mem, other⟩

/-- If reading came to the end without a fault, all that was passed over was interruptions. -/
theorem interrupted_of_takeFrom {collected : ByteArray} {needed : Nat} {deliveries : List Delivery}
    (unstopped : (takeFrom collected needed deliveries).fault = none)
    (short : (Item.available (items ⟨deliveries⟩)).length < needed) {cause : IoFault}
    (mem : .fault cause ∈ items ⟨deliveries⟩) : cause.kind = .interrupted := by
  fun_induction takeFrom collected needed deliveries with
  | case1 => cases short
  | case2 => cases mem
  | case3 collected needed fault later interrupted inductionHypothesis =>
      have passed : items ⟨.fault fault :: later⟩ = .fault fault :: items ⟨later⟩ := rfl
      rw [passed] at short mem
      rw [Item.available, if_pos interrupted] at short
      rcases List.mem_cons.mp mem with same | behind
      · rw [Item.fault.inj same]
        exact interrupted
      · exact inductionHypothesis unstopped short behind
  | case4 => cases unstopped
  | case5 collected needed bytes later more =>
      have length : bytes.data.toList.length = bytes.size := by simp
      rw [items_cons, Delivery.items, Item.available_append, List.length_append] at short
      omega
  | case6 collected needed bytes later enough inductionHypothesis =>
      have length : bytes.data.toList.length = bytes.size := by simp
      rw [items_cons, Delivery.items] at short mem
      rw [Item.available_append, List.length_append] at short
      rcases List.mem_append.mp mem with own | behind
      · obtain ⟨value, -, impossible⟩ := List.mem_map.mp own
        cases impossible
      · exact inductionHypothesis unstopped (by omega) behind

end Reader

namespace StreamHandle

variable {δ : Type} {source : StreamHandle} {length : Nat} {world after : World δ}

/-- Nothing but interruptions keeps the stream from being read to its end. -/
def Ends (source : StreamHandle) (world : World δ) : Prop :=
  ∀ cause, .fault cause ∈ source.items world → cause.kind = .interrupted

theorem items_congr (readers : after.readers = world.readers) :
    source.items after = source.items world := by
  rw [items, reader, readers, items, reader]

/-- A stream that ends does so also behind what was read of it. -/
theorem Ends.of_items (ends : source.Ends world) {needed : Nat}
    (left : source.items after = Item.behind needed (source.items world)) : source.Ends after := by
  intro cause mem
  rw [left] at mem
  exact ends cause ((Item.behind_suffix needed _).subset mem)

/-- A stream that ends early is read to its end. -/
theorem on_take_of_ends (ends : source.Ends world)
    (short : (source.available world).length < length) :
    ∃ bytes readers, Effect.on (source.take length) world =
        (.ok bytes, world.withReaders readers) ∧ bytes.size = (source.available world).length := by
  have size := (source.reader world).size_take length
  have whole : outcome ((source.reader world).take length) =
      .ok ((source.reader world).take length).bytes := by
    rw [outcome]
    split
    · rfl
    · next cause stopped =>
      obtain ⟨mem, other⟩ := Reader.fault_takeFrom stopped
      exact absurd (ends cause mem) other
  exact ⟨_, _, Prod.ext whole rfl, size.trans (Nat.min_eq_right (Nat.le_of_lt short))⟩

/-- The stream ends before a number of bytes was read of it. -/
structure EndsWithin (source : StreamHandle) (length : Nat) (world : World δ) : Prop where
  short : (source.available world).length < length
  ends : source.Ends world

/-- A stream was read for a length, and no other one was. -/
structure ReadFor (source : StreamHandle) (length : Nat) (world after : World δ) : Prop where
  items : source.items after = Item.behind length (source.items world)
  others : ∀ {other : StreamHandle}, other ≠ source → other.items after = other.items world

theorem reader_setReader_of_ne {other : StreamHandle} (different : other ≠ source)
    (reader : Reader) (world : World δ) :
    other.reader (source.setReader reader world) = other.reader world := by
  have apart : source.index ≠ other.index :=
    fun same => different (congrArg StreamHandle.mk same.symm)
  simp only [StreamHandle.reader, setReader, Array.getD_eq_getD_getElem?,
    Array.getElem?_setIfInBounds_ne apart]

theorem readFor_setReader (source : StreamHandle) (length : Nat) (world : World δ) :
    source.ReadFor length world
      (source.setReader ((source.reader world).take length).rest world) where
  items := items_take source length world
  others different := by
    rw [StreamHandle.items, reader_setReader_of_ne different]
    rfl

section Readers

variable {begun later : World δ}

theorem endsWithin_congr (readers : after.readers = world.readers) :
    source.EndsWithin length after ↔ source.EndsWithin length world := by
  have items : source.items after = source.items world := items_congr readers
  constructor <;> rintro ⟨short, ends⟩
  · exact ⟨by rwa [available, items] at short, fun cause mem => ends cause (items ▸ mem)⟩
  · exact ⟨by rwa [available, items], fun cause mem => ends cause (items ▸ mem)⟩

theorem ReadFor.congr (read : source.ReadFor length world after)
    (begin : begun.readers = world.readers) (finish : later.readers = after.readers) :
    source.ReadFor length begun later where
  items := by rw [items_congr finish, items_congr begin, read.items]
  others different := by rw [items_congr finish, items_congr begin, read.others different]

end Readers

/-- Reads a stream for a length; how it breaks the contract by ending earlier is up to the
reader. -/
def reading (source : StreamHandle) (length : Nat) (short : Nat → ContractFault) :
    Action δ ByteArray := do
  match ← Action.lift (source.take length) with
  | .error fault => Action.fail (.io fault)
  | .ok bytes =>
      if bytes.size = length then return bytes else Action.fail (.contract (short bytes.size))

/-- How the reading of a stream for a length ends: the stream ends within it, it is stopped by a
fault, or it gives all that is asked for. -/
inductive Reading (endsWithin : Prop) (short : Nat → ContractFault) :
    Except Fault ByteArray → Prop
  | ended (within : endsWithin) (delivered : Nat) :
      Reading endsWithin short (.error (.contract (short delivered)))
  | stopped (within : ¬ endsWithin) (fault : IoFault) :
      Reading endsWithin short (.error (.io fault))
  | whole (within : ¬ endsWithin) (bytes : ByteArray) : Reading endsWithin short (.ok bytes)

theorem on_reading (source : StreamHandle) (length : Nat) (short : Nat → ContractFault)
    (world : World δ) :
    ∃ outcome readers, Action.on (source.reading length short) world =
        (outcome, world.withReaders readers) ∧
      source.ReadFor length world (world.withReaders readers) ∧
        Reading (source.EndsWithin length world) short outcome := by
  let progress := (source.reader world).take length
  have size : progress.bytes.size = min length (source.available world).length :=
    (source.reader world).size_take length
  have read := readFor_setReader source length world
  have ran (taken : Except IoFault ByteArray) (same : outcome progress = taken) :
      Action.on (source.reading length short) world =
        Action.on (match taken with
          | .error fault => Action.fail (.io fault)
          | .ok bytes => if bytes.size = length then return bytes
              else Action.fail (.contract (short bytes.size)))
          (source.setReader progress.rest world) := by
    rw [← same]
    rfl
  cases stopped : progress.fault with
  | some cause =>
      have took : outcome progress = .error cause := by rw [outcome, stopped]
      obtain ⟨mem, other⟩ := Reader.fault_takeFrom stopped
      exact ⟨_, _, ran _ took, read, .stopped (fun within => other (within.ends cause mem)) cause⟩
  | none =>
      have took : outcome progress = .ok progress.bytes := by rw [outcome, stopped]
      by_cases enough : progress.bytes.size = length
      · refine ⟨.ok progress.bytes, _, ?_, read, .whole (fun within => ?_) progress.bytes⟩
        · rw [ran _ took]
          dsimp only
          rw [if_pos enough]
          rfl
        · have := within.short
          omega
      · refine ⟨.error (.contract (short progress.bytes.size)), _, ?_, read,
          .ended ⟨by omega, ?_⟩ _⟩
        · rw [ran _ took]
          dsimp only
          rw [if_neg enough]
          rfl
        · exact fun cause mem => Reader.interrupted_of_takeFrom stopped (by
            have less : (source.available world).length < length := by omega
            exact less) mem

end StreamHandle

theorem Depot.readDeclared_eq_reading (source : StreamHandle) (length : Nat) :
    (readDeclared source length : Action δ ByteArray) =
      source.reading length (.streamShort · length) := rfl

end PayloadDepot
