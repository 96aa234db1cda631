import PayloadDepot.Wire.Framing

/-!
# Variable-length integers

An integer is folded to a natural number such that those next to zero stay
small, and the number is written in groups of seven bits, the lowest first.
Every byte but the last has its highest bit set, so the integer can be read
again whatever follows it.  The sizes that an estimate counts are the numbers of
these bytes; they never fall as the integer grows, and a small step takes at
most one more byte.
-/

namespace PayloadDepot

namespace Varint

/-- The place of an integer among 0, -1, 1, -2, 2 and so on. -/
def zigzag : Int → Nat
  | .ofNat number => 2 * number
  | .negSucc number => 2 * number + 1

def unzigzag (place : Nat) : Int :=
  if place % 2 = 0 then .ofNat (place / 2) else .negSucc (place / 2)

/-- The bytes of a natural number with seven bits each, the lowest first. -/
def groups (number : Nat) : List UInt8 :=
  if number < 0x80 then [UInt8.ofNat number]
  else UInt8.ofNat (number % 0x80 + 0x80) :: groups (number / 0x80)

/-- The bytes of an integer. -/
def bytes (value : Int) : List UInt8 :=
  groups (zigzag value)

/-- The natural number that some bytes begin with, and what follows it. -/
def readGroups? : List UInt8 → Option (Nat × List UInt8)
  | [] => none
  | byte :: later =>
      if byte.toNat < 0x80 then some (byte.toNat, later)
      else (readGroups? later).map fun (high, rest) => (high * 0x80 + (byte.toNat - 0x80), rest)

def read? (bytes : List UInt8) : Option (Int × List UInt8) :=
  (readGroups? bytes).map fun (place, rest) => (unzigzag place, rest)

theorem unzigzag_zigzag (value : Int) : unzigzag (zigzag value) = value := by
  cases value with
  | ofNat number => simp [zigzag, unzigzag]
  | negSucc number =>
      have half : (2 * number + 1) / 2 = number := by omega
      simp [zigzag, unzigzag, half]

theorem readGroups?_groups (number : Nat) (rest : List UInt8) :
    readGroups? (groups number ++ rest) = some (number, rest) := by
  fun_induction groups number with
  | case1 number small =>
      have byte : (UInt8.ofNat number).toNat = number := by
        rw [UInt8.toNat_ofNat']
        omega
      simp [readGroups?, byte, small]
  | case2 number large inductionHypothesis =>
      have byte : (UInt8.ofNat (number % 0x80 + 0x80)).toNat = number % 0x80 + 0x80 := by
        rw [UInt8.toNat_ofNat']
        omega
      rw [List.cons_append, readGroups?, byte, if_neg (by omega), inductionHypothesis]
      simp only [Option.map_some, Option.some.injEq, Prod.mk.injEq, and_true]
      omega

/-- An integer is read again from its bytes, whatever follows them. -/
theorem read?_bytes (value : Int) (rest : List UInt8) :
    read? (bytes value ++ rest) = some (value, rest) := by
  simp [read?, bytes, readGroups?_groups, unzigzag_zigzag]

theorem length_groups (number : Nat) :
    (groups number).length = Framing.groupCount number := by
  fun_induction groups number with
  | case1 number small => rw [Framing.groupCount, if_pos small, List.length_singleton]
  | case2 number large inductionHypothesis =>
      rw [Framing.groupCount, if_neg large, List.length_cons, inductionHypothesis]

@[simp]
theorem length_bytes (number : Nat) : (bytes number).length = Framing.varintSize number :=
  length_groups _

end Varint

namespace Framing

theorem groupCount_of_lt {number : Nat} (small : number < 0x80) : groupCount number = 1 := by
  rw [groupCount, if_pos small]

theorem groupCount_of_le {number : Nat} (large : 0x80 ≤ number) :
    groupCount number = groupCount (number / 0x80) + 1 := by
  rw [groupCount, if_neg (Nat.not_lt_of_le large)]

theorem groupCount_pos (number : Nat) : 1 ≤ groupCount number := by
  rw [groupCount]
  split <;> omega

/-- A larger number takes no fewer groups. -/
theorem groupCount_mono {number larger : Nat} (least : number ≤ larger) :
    groupCount number ≤ groupCount larger := by
  fun_induction groupCount number generalizing larger with
  | case1 number small => apply groupCount_pos
  | case2 number large inductionHypothesis =>
      have shorter : number / 0x80 ≤ larger / 0x80 := Nat.div_le_div_right least
      have high := inductionHypothesis shorter
      have step : groupCount larger = groupCount (larger / 0x80) + 1 := by
        apply groupCount_of_le
        omega
      omega

/-- One group more is enough for a number that exceeds another one by less than a group. -/
theorem groupCount_add_le (number : Nat) {more : Nat} (small : more < 0x80) :
    groupCount (number + more) ≤ groupCount number + 1 := by
  rcases Nat.eq_zero_or_pos number with rfl | positive
  · rw [Nat.zero_add, groupCount_of_lt small]
    omega
  · -- The larger number is at most the other one with an empty group below it.
    have shifted : groupCount (number * 0x80) = groupCount number + 1 := by
      rw [groupCount_of_le (by omega), Nat.mul_div_cancel _ (by decide)]
    rw [← shifted]
    apply groupCount_mono
    omega

theorem varintSize_pos (value : Nat) : 1 ≤ varintSize value :=
  groupCount_pos _

theorem varintSize_mono {value larger : Nat} (least : value ≤ larger) :
    varintSize value ≤ varintSize larger := by
  apply groupCount_mono
  omega

theorem varintSize_add_le (value : Nat) {more : Nat} (small : more < 0x40) :
    varintSize (value + more) ≤ varintSize value + 1 := by
  rw [varintSize, Nat.mul_add]
  apply groupCount_add_le
  omega

end Framing

end PayloadDepot
