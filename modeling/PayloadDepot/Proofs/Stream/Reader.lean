import PayloadDepot.Stream.Reader

/-!
# What a reader delivers

A reader delivers single bytes and faults one after the other; how they are cut
into chunks cannot be told from reading up to a number of bytes.  Available are
the bytes before the first fault that is not an interruption.  Reading up to a
number of bytes gives as many of these and leaves behind them what is still to
come.
-/

namespace PayloadDepot

/-- One byte or one fault. -/
inductive Item where
  | byte (value : UInt8)
  | fault (fault : IoFault)

namespace Item

/-- The bytes that reading on gives until a fault stops it. -/
def available : List Item → List UInt8
  | [] => []
  | .byte value :: later => value :: available later
  | .fault cause :: later => if cause.kind = .interrupted then available later else []

/-- What is still to come once reading has given a number of bytes or was stopped. -/
def behind : Nat → List Item → List Item
  | 0, items => items
  | _ + 1, [] => []
  | needed + 1, .byte _ :: later => behind needed later
  | needed + 1, .fault cause :: later =>
      if cause.kind = .interrupted then behind (needed + 1) later else later

@[simp]
theorem behind_zero (items : List Item) : behind 0 items = items := by
  cases items <;> rfl

@[simp]
theorem behind_nil (needed : Nat) : behind needed [] = [] := by
  cases needed <;> rfl

theorem available_append (values : List UInt8) (later : List Item) :
    available (values.map .byte ++ later) = values ++ available later := by
  induction values with
  | nil => rfl
  | cons value rest inductionHypothesis =>
      rw [List.map_cons, List.cons_append, available, inductionHypothesis, List.cons_append]

theorem behind_append_of_le {needed : Nat} {values : List UInt8} (le : needed ≤ values.length)
    (later : List Item) :
    behind needed (values.map .byte ++ later) = (values.drop needed).map .byte ++ later := by
  induction values generalizing needed with
  | nil =>
      obtain rfl : needed = 0 := Nat.le_zero.mp le
      simp
  | cons value rest inductionHypothesis =>
      cases needed with
      | zero => rfl
      | succ needed =>
          rw [List.map_cons, List.cons_append, behind, List.drop_succ_cons]
          exact inductionHypothesis (Nat.le_of_succ_le_succ le)

theorem behind_append_of_ge {needed : Nat} {values : List UInt8} (ge : values.length ≤ needed)
    (later : List Item) :
    behind needed (values.map .byte ++ later) = behind (needed - values.length) later := by
  induction values generalizing needed with
  | nil => rfl
  | cons value rest inductionHypothesis =>
      cases needed with
      | zero => cases ge
      | succ needed =>
          rw [List.map_cons, List.cons_append, behind, List.length_cons, Nat.succ_sub_succ]
          exact inductionHypothesis (Nat.le_of_succ_le_succ ge)

/-- Behind bytes that were available, the bytes after them are. -/
theorem available_behind {needed : Nat} {items : List Item}
    (enough : needed ≤ (available items).length) :
    available (behind needed items) = (available items).drop needed := by
  induction items generalizing needed with
  | nil => simp [available]
  | cons item later inductionHypothesis =>
      cases needed with
      | zero => simp
      | succ needed =>
          cases item with
          | byte value =>
              rw [behind, available, List.drop_succ_cons]
              exact inductionHypothesis (Nat.le_of_succ_le_succ enough)
          | fault cause =>
              rw [available] at enough ⊢
              rw [behind]
              split
              · next interrupted =>
                rw [if_pos interrupted] at enough
                exact inductionHypothesis enough
              · next stopped =>
                rw [if_neg stopped] at enough
                cases enough

end Item

def Delivery.items : Delivery → List Item
  | .chunk bytes => bytes.data.toList.map .byte
  | .fault cause => [.fault cause]

namespace Reader

/-- What a reader has still to deliver, byte by byte. -/
def items (reader : Reader) : List Item :=
  reader.deliveries.flatMap Delivery.items

theorem items_cons (delivery : Delivery) (later : List Delivery) :
    items ⟨delivery :: later⟩ = delivery.items ++ items ⟨later⟩ := rfl

@[simp]
theorem items_ofBytes (bytes : ByteArray) :
    (ofBytes bytes).items = bytes.data.toList.map .byte := by
  simp [ofBytes, items, Delivery.items]

/-- What is known of reading up to a number of bytes behind those that were collected before. -/
structure Reads (collected : ByteArray) (needed : Nat) (items : List Item)
    (progress : Progress) : Prop where
  bytes : progress.bytes.data.toList =
    collected.data.toList ++ (Item.available items).take needed
  fault : progress.fault ≠ none → (Item.available items).length < needed
  rest : progress.rest.items = Item.behind needed items

/-- Reading goes through the deliveries one by one: an interruption is passed over, and a chunk
is taken as a whole unless fewer bytes are needed. -/
theorem reads_takeFrom (collected : ByteArray) (needed : Nat) (deliveries : List Delivery) :
    Reads collected needed (items ⟨deliveries⟩) (takeFrom collected needed deliveries) := by
  fun_induction takeFrom collected needed deliveries with
  | case1 collected deliveries => exact ⟨by simp, by simp, by simp⟩
  | case2 collected needed => exact ⟨by simp [items, Item.available], by simp, by simp [items]⟩
  | case3 collected needed fault later interrupted inductionHypothesis =>
      have passed : items ⟨.fault fault :: later⟩ = .fault fault :: items ⟨later⟩ := rfl
      rw [passed]
      refine ⟨?_, ?_, ?_⟩
      · rw [Item.available, if_pos interrupted]
        exact inductionHypothesis.bytes
      · rw [Item.available, if_pos interrupted]
        exact inductionHypothesis.fault
      · rw [Item.behind, if_pos interrupted]
        exact inductionHypothesis.rest
  | case4 collected needed fault later uninterrupted =>
      have stopped : items ⟨.fault fault :: later⟩ = .fault fault :: items ⟨later⟩ := rfl
      rw [stopped]
      refine ⟨?_, ?_, ?_⟩
      · rw [Item.available, if_neg uninterrupted]
        simp
      · rw [Item.available, if_neg uninterrupted]
        simp
      · rw [Item.behind, if_neg uninterrupted]
  | case5 collected needed bytes later more =>
      -- The chunk holds more than is needed, so its rest stays in front of what follows.
      have length : bytes.data.toList.length = bytes.size := by simp
      rw [items_cons, Delivery.items]
      refine ⟨?_, by simp, ?_⟩
      · rw [Item.available_append, List.take_append_of_le_length (by omega)]
        simp
      · rw [Item.behind_append_of_le (by omega)]
        have kept : (bytes.extract (needed + 1) bytes.size).data.toList =
            bytes.data.toList.drop (needed + 1) := by
          rw [ByteArray.data_extract, Array.toList_extract, List.extract_eq_take_drop, ← length]
          exact List.take_of_length_le (by simp)
        rw [items_cons, Delivery.items, kept]
  | case6 collected needed bytes later enough inductionHypothesis =>
      have length : bytes.data.toList.length = bytes.size := by simp
      rw [items_cons, Delivery.items]
      refine ⟨?_, ?_, ?_⟩
      · rw [inductionHypothesis.bytes, Item.available_append, List.take_append]
        have whole : bytes.data.toList.take (needed + 1) = bytes.data.toList :=
          List.take_of_length_le (by omega)
        rw [Nat.succ_eq_add_one, whole, length]
        simp
      · intro stopped
        have short := inductionHypothesis.fault stopped
        rw [Item.available_append, List.length_append]
        omega
      · rw [inductionHypothesis.rest, Item.behind_append_of_ge (by omega), length]

section Take

variable (reader : Reader) (length : Nat)

theorem toList_take :
    (reader.take length).bytes.data.toList = (Item.available reader.items).take length := by
  have reads := reads_takeFrom ByteArray.empty length reader.deliveries
  exact reads.bytes.trans (List.nil_append _)

theorem size_take :
    (reader.take length).bytes.size = min length (Item.available reader.items).length := by
  have count := congrArg List.length (reader.toList_take length)
  simpa using count

theorem fault_take_of_le (enough : length ≤ (Item.available reader.items).length) :
    (reader.take length).fault = none := by
  have reads := reads_takeFrom ByteArray.empty length reader.deliveries
  cases stopped : (reader.take length).fault with
  | none => rfl
  | some fault =>
      have short := reads.fault (by rw [← take, stopped]; exact Option.some_ne_none fault)
      exact absurd short (Nat.not_lt.mpr enough)

theorem items_rest_take :
    (reader.take length).rest.items = Item.behind length reader.items :=
  (reads_takeFrom ByteArray.empty length reader.deliveries).rest

end Take

end Reader

end PayloadDepot
