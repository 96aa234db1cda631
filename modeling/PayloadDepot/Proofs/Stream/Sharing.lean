import PayloadDepot.Proofs.Stream.Ending

/-!
# Handles that share a reader

The handles of a stream are copies of the first one, and all of them read from
the same place.  Calls that succeed take the bytes of the source one after the
other, whichever handles they are made on: none is lost, none is given twice, and
a call that asks for a number of bytes leaves all behind them.
-/

namespace PayloadDepot

namespace Item

/-- The bytes among some items, whatever faults stand between them. -/
def bytes : List Item → List UInt8
  | [] => []
  | .byte value :: later => value :: bytes later
  | .fault _ :: later => bytes later

theorem bytes_append (values : List UInt8) (later : List Item) :
    bytes (values.map .byte ++ later) = values ++ bytes later := by
  induction values with
  | nil => rfl
  | cons value rest inductionHypothesis =>
      rw [List.map_cons, List.cons_append, bytes, inductionHypothesis, List.cons_append]

/-- Bytes that are available are read from the front. -/
theorem take_available_append_bytes {needed : Nat} {items : List Item}
    (enough : needed ≤ (available items).length) :
    (available items).take needed ++ bytes (behind needed items) = bytes items := by
  induction items generalizing needed with
  | nil => simp [available, bytes]
  | cons item later inductionHypothesis =>
      cases needed with
      | zero => simp
      | succ needed =>
          cases item with
          | byte value =>
              rw [available, behind, bytes, List.take_succ_cons, List.cons_append,
                inductionHypothesis (Nat.le_of_succ_le_succ enough)]
          | fault cause =>
              rw [available] at enough ⊢
              rw [behind, bytes]
              split
              · next interrupted =>
                rw [if_pos interrupted] at enough
                exact inductionHypothesis enough
              · next stopped =>
                rw [if_neg stopped] at enough
                cases enough

/-- If nothing but interruptions comes between them, all bytes are available. -/
theorem available_eq_bytes {items : List Item}
    (ends : ∀ cause, .fault cause ∈ items → cause.kind = .interrupted) :
    available items = bytes items := by
  induction items with
  | nil => rfl
  | cons item later inductionHypothesis =>
      have rest :=
        inductionHypothesis fun cause member => ends cause (List.mem_cons_of_mem _ member)
      cases item with
      | byte value => rw [available, bytes, rest]
      | fault cause => rw [available, bytes, if_pos (ends cause List.mem_cons_self), rest]

end Item

namespace Reader

theorem toList_allBytes (deliveries : List Delivery) :
    (allBytes deliveries).data.toList = Item.bytes (items ⟨deliveries⟩) := by
  induction deliveries with
  | nil => rfl
  | cons delivery later inductionHypothesis =>
      rw [items_cons]
      cases delivery with
      | chunk bytes =>
          rw [allBytes, Delivery.items, Item.bytes_append, ← inductionHypothesis]
          simp
      | fault cause => exact inductionHypothesis

/-- A single read gives the bytes at the front, and no more than there is room for. -/
theorem of_readOnce_ok {size : Nat} {deliveries : List Delivery} {bytes : ByteArray}
    {rest : Reader} (read : readOnce size deliveries = (.ok bytes, rest)) :
    bytes.size ≤ size ∧
      bytes.data.toList ++ Item.bytes rest.items = Item.bytes (items ⟨deliveries⟩) := by
  fun_induction readOnce size deliveries with
  | case1 =>
      cases read
      exact ⟨Nat.zero_le _, rfl⟩
  | case2 => cases read
  | case3 chunk later empty inductionHypothesis =>
      obtain ⟨room, front⟩ := inductionHypothesis read
      refine ⟨room, front.trans ?_⟩
      have nothing : chunk.data.toList = [] := List.eq_nil_of_length_eq_zero empty
      rw [items_cons, Delivery.items, nothing, List.map_nil, List.nil_append]
  | case4 chunk later filled more =>
      cases read
      have whole : chunk.extract 0 size ++ chunk.extract size chunk.size = chunk := by
        rw [ByteArray.extract_append_extract, Nat.zero_min, Nat.max_eq_right (Nat.le_of_lt more),
          ByteArray.extract_zero_size]
      have parts : (chunk.extract 0 size).data.toList ++
          (chunk.extract size chunk.size).data.toList = chunk.data.toList := by
        rw [← Array.toList_append, ← ByteArray.data_append, whole]
      have room : (chunk.extract 0 size).size ≤ size := by
        rw [ByteArray.size_extract]
        omega
      refine ⟨room, ?_⟩
      rw [items_cons, items_cons, Delivery.items, Delivery.items, Item.bytes_append,
        Item.bytes_append, ← List.append_assoc, parts]
  | case5 chunk later filled room =>
      cases read
      refine ⟨Nat.not_lt.mp room, ?_⟩
      rw [items_cons, Delivery.items, Item.bytes_append]

/-- Reading on to the end without a fault gives all bytes. -/
theorem of_drainFrom {collected : ByteArray} {deliveries : List Delivery}
    (unstopped : (drainFrom collected deliveries).fault = none) :
    (drainFrom collected deliveries).bytes.data.toList =
        collected.data.toList ++ Item.bytes (items ⟨deliveries⟩) ∧
      (drainFrom collected deliveries).rest = ⟨[]⟩ := by
  fun_induction drainFrom collected deliveries with
  | case1 collected => exact ⟨(List.append_nil _).symm, rfl⟩
  | case2 collected fault later interrupted inductionHypothesis =>
      exact inductionHypothesis unstopped
  | case3 => cases unstopped
  | case4 collected bytes later inductionHypothesis =>
      obtain ⟨all, ended⟩ := inductionHypothesis unstopped
      refine ⟨?_, ended⟩
      rw [all, items_cons, Delivery.items, Item.bytes_append]
      simp

end Reader

namespace StreamHandle

variable {δ : Type} {stream : StreamHandle} {world after : World δ} {bytes : ByteArray}

/-- The bytes that a stream has still to give. -/
def left (stream : StreamHandle) (world : World δ) : List UInt8 :=
  Item.bytes (stream.items world)

/-- A read that leaves a reader takes bytes of the stream, also if no reader stands behind the
handle. -/
theorem append_left_setReader {rest : Reader}
    (front : bytes.data.toList ++ Item.bytes rest.items = stream.left world) :
    bytes.data.toList ++ stream.left (stream.setReader rest world) = stream.left world := by
  rw [left, items, reader_setReader]
  split
  · exact front
  · next missing =>
    have nothing : stream.left world = [] := by
      simp [left, items, StreamHandle.reader, Array.getD, missing, Reader.items, Item.bytes]
    rw [nothing, List.append_eq_nil_iff] at front
    rw [nothing, front.1]
    rfl

theorem of_read_ok {size : Nat} (ran : Effect.on (stream.read size) world = (.ok bytes, after)) :
    bytes.size ≤ size ∧ bytes.data.toList ++ stream.left after = stream.left world := by
  rw [read, Effect.on_modifyGet] at ran
  rcases once : (stream.reader world).read size with ⟨outcome, rest⟩
  rw [once] at ran
  cases ran
  obtain ⟨room, front⟩ := Reader.of_readOnce_ok once
  exact ⟨room, append_left_setReader front⟩

theorem outcome_eq_ok_iff {progress : Reader.Progress} :
    outcome progress = .ok bytes ↔ progress.fault = none ∧ progress.bytes = bytes := by
  rw [outcome]
  cases progress.fault <;> simp

theorem of_drain_ok (ran : Effect.on stream.drain world = (.ok bytes, after)) :
    bytes.data.toList = stream.left world ∧ stream.left after = [] := by
  obtain ⟨took, rfl⟩ := Prod.mk.inj ran
  obtain ⟨unstopped, rfl⟩ := outcome_eq_ok_iff.mp took
  obtain ⟨all, ended⟩ := Reader.of_drainFrom unstopped
  have whole : (stream.reader world).drain.bytes.data.toList = stream.left world := all
  have front : (stream.reader world).drain.bytes.data.toList ++
      Item.bytes (stream.reader world).drain.rest.items = stream.left world := by
    rw [whole, Reader.drain, ended]
    exact List.append_nil _
  have behind := append_left_setReader front
  rw [whole] at behind
  exact ⟨whole, List.append_right_eq_self.mp behind⟩

/-- What reading for a length gives is read from the front, and the stream is left behind it. -/
theorem of_readExactly_ok {length : Nat}
    (ran : Effect.on (stream.readExactly length) world = (.ok bytes, after)) :
    bytes.size = length ∧ bytes.data.toList ++ stream.left after = stream.left world := by
  rw [readExactly, Effect.on_bind] at ran
  rcases Nat.lt_or_ge (stream.available world).length length with short | enough
  · obtain ⟨outcome, readers, took, other⟩ := on_take_of_lt short
    rw [took] at ran
    cases outcome with
    | error fault => cases ran
    | ok taken =>
        dsimp only at ran
        rw [if_neg (other taken rfl)] at ran
        cases ran
  · obtain ⟨taken, readers, took, size, values, rest⟩ := on_take_of_le enough
    rw [took] at ran
    dsimp only at ran
    rw [if_pos size] at ran
    cases ran
    refine ⟨size, ?_⟩
    rw [values, left, rest]
    exact Item.take_available_append_bytes enough

/-- Over a stream that ends, reading for a length fails just if the stream ends within it, and the
fault tells how many bytes there were. -/
theorem on_readExactly_of_ends (ends : stream.Ends world) (length : Nat) :
    ∃ readers, Effect.on (stream.readExactly length) world =
      (if (stream.left world).length < length then
        .error (endedEarly (stream.left world).length length)
      else .ok ⟨((stream.left world).take length).toArray⟩, world.withReaders readers) := by
  have all : stream.available world = stream.left world := Item.available_eq_bytes ends
  rw [readExactly, Effect.on_bind, ← all]
  rcases Nat.lt_or_ge (stream.available world).length length with short | enough
  · obtain ⟨taken, readers, took, size⟩ := on_take_of_ends ends short
    refine ⟨readers, ?_⟩
    rw [took, if_pos short]
    dsimp only
    rw [size, if_neg (Nat.ne_of_lt short)]
    rfl
  · obtain ⟨taken, readers, took, size, values, -⟩ := on_take_of_le enough
    refine ⟨readers, ?_⟩
    rw [took, if_neg (Nat.not_lt.mpr enough), ← values]
    dsimp only
    rw [if_pos size]
    rfl

end StreamHandle

/-- A call on one of the handles of a stream, which are numbered in the order of their making. -/
inductive StreamCall where
  | clone (handle : Nat)
  | read (handle size : Nat)
  | readExactly (handle length : Nat)
  | drain (handle : Nat)

namespace StreamCall

variable {δ : Type}

/-- A call that succeeds: the bytes that it gives, and the handles and the world after it.  A copy
of a handle is added behind the others and gives no bytes. -/
inductive Succeeds (handles : List StreamHandle) (world : World δ) :
    StreamCall → ByteArray → List StreamHandle → World δ → Prop
  | clone {handle : Nat} {stream : StreamHandle} (found : handles[handle]? = some stream) :
      Succeeds handles world (.clone handle) ByteArray.empty (handles ++ [stream]) world
  | read {handle size : Nat} {stream : StreamHandle} {bytes : ByteArray} {after : World δ}
      (found : handles[handle]? = some stream)
      (ran : Effect.on (stream.read size) world = (.ok bytes, after)) :
      Succeeds handles world (.read handle size) bytes handles after
  | readExactly {handle length : Nat} {stream : StreamHandle} {bytes : ByteArray}
      {after : World δ} (found : handles[handle]? = some stream)
      (ran : Effect.on (stream.readExactly length) world = (.ok bytes, after)) :
      Succeeds handles world (.readExactly handle length) bytes handles after
  | drain {handle : Nat} {stream : StreamHandle} {bytes : ByteArray} {after : World δ}
      (found : handles[handle]? = some stream)
      (ran : Effect.on stream.drain world = (.ok bytes, after)) :
      Succeeds handles world (.drain handle) bytes handles after

/-- What a call takes off the front of the bytes that are left. -/
def Draws (call : StreamCall) (bytes : ByteArray) (before rest : List UInt8) : Prop :=
  bytes.data.toList ++ rest = before ∧
    match call with
    | clone _ => bytes.size = 0
    | read _ size => bytes.size ≤ size
    | readExactly _ length => bytes.size = length
    | drain _ => rest = []

/-- A call that succeeds draws on the stream that all handles stand for. -/
theorem Succeeds.draws {handles later : List StreamHandle} {world after : World δ}
    {call : StreamCall} {bytes : ByteArray} {stream : StreamHandle}
    (succeeds : Succeeds handles world call bytes later after)
    (shared : ∀ handle ∈ handles, handle = stream) :
    call.Draws bytes (stream.left world) (stream.left after) ∧
      ∀ handle ∈ later, handle = stream := by
  cases succeeds with
  | clone found =>
      refine ⟨⟨rfl, rfl⟩, fun handle member => ?_⟩
      rcases List.mem_append.mp member with old | new
      · exact shared handle old
      · rw [List.mem_singleton.mp new]
        exact shared _ (List.mem_of_getElem? found)
  | read found ran =>
      obtain rfl := shared _ (List.mem_of_getElem? found)
      obtain ⟨room, front⟩ := StreamHandle.of_read_ok ran
      exact ⟨⟨front, room⟩, shared⟩
  | readExactly found ran =>
      obtain rfl := shared _ (List.mem_of_getElem? found)
      obtain ⟨size, front⟩ := StreamHandle.of_readExactly_ok ran
      exact ⟨⟨front, size⟩, shared⟩
  | drain found ran =>
      obtain rfl := shared _ (List.mem_of_getElem? found)
      obtain ⟨all, ended⟩ := StreamHandle.of_drain_ok ran
      refine ⟨⟨?_, ended⟩, shared⟩
      rw [all, ended, List.append_nil]

/-- Calls that succeed one after the other, each with the bytes that it gives. -/
inductive Course : List StreamHandle → World δ → List (StreamCall × ByteArray) →
    List StreamHandle → World δ → Prop
  | nil (handles : List StreamHandle) (world : World δ) : Course handles world [] handles world
  | cons {handles next last : List StreamHandle} {world after final : World δ} {call : StreamCall}
      {bytes : ByteArray} {calls : List (StreamCall × ByteArray)}
      (first : Succeeds handles world call bytes next after)
      (rest : Course next after calls last final) :
      Course handles world ((call, bytes) :: calls) last final

/-- All bytes that some calls gave, in the order of the calls. -/
def given (calls : List (StreamCall × ByteArray)) : List UInt8 :=
  calls.flatMap fun (_, bytes) => bytes.data.toList

namespace Course

variable {handles last : List StreamHandle} {world final : World δ} {stream : StreamHandle}
  {calls : List (StreamCall × ByteArray)}

/-- Nothing is lost and nothing is given twice: what was given and what is left make up what there
was. -/
theorem given_append_left (course : Course handles world calls last final)
    (shared : ∀ handle ∈ handles, handle = stream) :
    given calls ++ stream.left final = stream.left world ∧ ∀ handle ∈ last, handle = stream := by
  induction course with
  | nil => exact ⟨rfl, shared⟩
  | cons first rest inductionHypothesis =>
      obtain ⟨⟨front, -⟩, next⟩ := first.draws shared
      obtain ⟨behind, same⟩ := inductionHypothesis next
      refine ⟨?_, same⟩
      rw [given, List.flatMap_cons, List.append_assoc]
      exact (congrArg _ behind).trans front

/-- Calls are made in the world that the calls before them left. -/
theorem exists_split {earlier later : List (StreamCall × ByteArray)}
    (course : Course handles world (earlier ++ later) last final) :
    ∃ middle between, Course handles world earlier middle between ∧
      Course middle between later last final := by
  induction earlier generalizing handles world with
  | nil => exact ⟨handles, world, .nil _ _, course⟩
  | cons entry earlier inductionHypothesis =>
      cases course with
      | cons first rest =>
          obtain ⟨middle, between, before, behind⟩ := inductionHypothesis rest
          exact ⟨middle, between, .cons first before, behind⟩

/-- Every call draws on what the calls before it left of the stream. -/
theorem draws_of_mem {earlier later : List (StreamCall × ByteArray)} {call : StreamCall}
    {bytes : ByteArray} (course : Course handles world calls last final)
    (shared : ∀ handle ∈ handles, handle = stream)
    (entries : calls = earlier ++ (call, bytes) :: later) :
    call.Draws bytes ((stream.left world).drop (given earlier).length)
      ((stream.left world).drop ((given earlier).length + bytes.size)) := by
  rw [entries] at course
  obtain ⟨middle, between, before, behind⟩ := course.exists_split
  obtain ⟨took, same⟩ := before.given_append_left shared
  cases behind with
  | cons first rest =>
      obtain ⟨draws, -⟩ := first.draws same
      have size : bytes.data.toList.length = bytes.size := by simp
      rw [← took, ← List.drop_drop, List.drop_left, ← size]
      obtain ⟨front, kind⟩ := draws
      rw [← front, List.drop_left]
      exact ⟨rfl, kind⟩

end Course

end StreamCall

/-- Whatever is called on the handles of one stream, the bytes that the calls give make up, together
with those that are left, the bytes of the source, and every call draws on what the calls before it
left.  Reading for a length fails over a stream without faults just if the stream ends within it. -/
theorem handles_share_source {δ : Type} (source : Reader) (start : World δ) :
    let opened := Effect.on (StreamHandle.ofReader source) start
    let bytes := (Reader.allBytes source.deliveries).data.toList
    (∀ {calls last final}, StreamCall.Course [opened.1] opened.2 calls last final →
      StreamCall.given calls ++ opened.1.left final = bytes ∧
      ∀ {earlier call taken later}, calls = earlier ++ (call, taken) :: later →
        let position := (StreamCall.given earlier).length
        call.Draws taken (bytes.drop position) (bytes.drop (position + taken.size))) ∧
    ∀ (stream : StreamHandle) (world : World δ), stream.Ends world → ∀ length,
      let left := stream.left world
      let count := left.length
      ∃ readers, Effect.on (stream.readExactly length) world =
        (if count < length then
          .error ⟨.unexpectedEnd, s!"stream ended after {count} of {length} bytes", []⟩
        else .ok ⟨(left.take length).toArray⟩, world.withReaders readers) := by
  intro opened bytes
  have whole : opened.1.left opened.2 = bytes := by
    have reader : opened.1.reader opened.2 = source := by
      simp [opened, StreamHandle.ofReader, StreamHandle.reader]
    rw [StreamHandle.left, StreamHandle.items, reader]
    exact (Reader.toList_allBytes source.deliveries).symm
  have shared : ∀ handle ∈ [opened.1], handle = opened.1 := fun _ => List.mem_singleton.mp
  refine ⟨fun course => ⟨?_, fun entries => ?_⟩, fun stream world ends length =>
    stream.on_readExactly_of_ends ends length⟩
  · rw [← whole]
    exact (course.given_append_left shared).1
  · rw [← whole]
    exact course.draws_of_mem shared entries

/-- Two handles read in turn what comes in chunks, one of them empty, around an interruption. -/
theorem handles_share_source_interrupted :
    let source : Reader := ⟨[.chunk ⟨#[1, 2]⟩, .chunk ⟨#[]⟩, .fault ⟨.interrupted, "again", []⟩,
      .chunk ⟨#[3, 4, 5, 6]⟩]⟩
    let opened := Effect.on (StreamHandle.ofReader source) (World.initial 0 .empty ())
    let calls : List (StreamCall × ByteArray) := [(.clone 0, .empty),
      (.readExactly 1 3, ⟨#[1, 2, 3]⟩), (.read 0 1, ⟨#[4]⟩), (.drain 1, ⟨#[5, 6]⟩)]
    opened.1.Ends opened.2 ∧
      (∃ last final, StreamCall.Course [opened.1] opened.2 calls last final ∧
        StreamCall.given calls ++ opened.1.left final = [1, 2, 3, 4, 5, 6]) ∧
      (Effect.on (opened.1.readExactly 9) opened.2).1 =
        .error ⟨.unexpectedEnd, "stream ended after 6 of 9 bytes", []⟩ := by
  intro source opened calls
  obtain ⟨courses, fails⟩ := handles_share_source source (World.initial 0 .empty ())
  have ends : opened.1.Ends opened.2 := by
    have items : opened.1.items opened.2 = [.byte 1, .byte 2, .fault ⟨.interrupted, "again", []⟩,
      .byte 3, .byte 4, .byte 5, .byte 6] := rfl
    intro cause member
    rw [items] at member
    simp only [List.mem_cons, reduceCtorEq, Item.fault.injEq, List.not_mem_nil, false_or,
      or_false] at member
    rw [member]
  have course : StreamCall.Course [opened.1] opened.2 calls [opened.1, opened.1] _ :=
    .cons (.clone rfl) (.cons (.readExactly rfl rfl) (.cons (.read rfl rfl)
      (.cons (.drain rfl rfl) (.nil _ _))))
  obtain ⟨readers, ran⟩ := fails opened.1 opened.2 ends 9
  have text : s!"stream ended after {6} of {9} bytes" = "stream ended after 6 of 9 bytes" := by
    decide
  refine ⟨ends, ⟨_, _, course, (courses course).1⟩, ?_⟩
  rw [ran, ← text]
  rfl

end PayloadDepot
