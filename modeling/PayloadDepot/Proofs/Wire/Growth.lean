import Mathlib.Order.Nat
import Mathlib.Order.WellFounded
import PayloadDepot.Proofs.Wire.Varint

/-!
# How sizes grow

A byte more in the key or in the value makes the estimated size grow by one to
three: by the byte itself and, now and then, by one for the length in front of
the key or the value and by one for the length in front of the record.  A header
adds at least its name, its value and their two lengths, wherever it stands, and
the order of the headers does not matter.  So the lengths that put a record over
a threshold are all those from some length on.
-/

namespace PayloadDepot

namespace Framing

section Counted

variable {length longer more : Nat}

/-- Bytes with their length in front of them grow at least as much as the bytes. -/
theorem nullableSize_add_le_of_le (grown : length + more ≤ longer) :
    nullableSize (some length) + more ≤ nullableSize (some longer) := by
  have inFront : varintSize length ≤ varintSize longer := by
    apply varintSize_mono
    omega
  simp only [nullableSize]
  omega

/-- If the bytes do not grow by much, their length grows by one byte at most. -/
theorem nullableSize_le_of_le_add (small : more < 0x40) (bounded : longer ≤ length + more) :
    nullableSize (some longer) ≤ nullableSize (some length) + more + 1 := by
  have inFront : varintSize longer ≤ varintSize length + 1 :=
    Nat.le_trans (varintSize_mono bounded) (varintSize_add_le length small)
  simp only [nullableSize]
  omega

theorem succ_le_nullableSize (length : Nat) : length + 1 ≤ nullableSize (some length) := by
  have positive := varintSize_pos length
  simp only [nullableSize]
  omega

theorem nullableSize_succ (length : Nat) :
    nullableSize (some length) + 1 ≤ nullableSize (some (length + 1)) ∧
      nullableSize (some (length + 1)) ≤ nullableSize (some length) + 2 := by
  constructor
  · apply nullableSize_add_le_of_le
    rfl
  · apply nullableSize_le_of_le_add (by decide)
    rfl

end Counted

/-- A record is its body with the length in front of it. -/
theorem estimate_eq (key : Option ByteArray) (valueLength : Option Nat) (headers : Headers)
    (timestamp : Int) :
    estimate key valueLength headers timestamp =
      61 + nullableSize (some (bodySize (key.map ByteArray.size) valueLength headers)) :=
  rfl

/-- One or two bytes more in the key and the value are one to three more in the record. -/
theorem estimate_of_step {key longer : Option ByteArray} {valueLength longerLength : Option Nat}
    {headers : Headers} {now later : Int}
    (least : nullableSize (key.map ByteArray.size) + nullableSize valueLength + 1 ≤
      nullableSize (longer.map ByteArray.size) + nullableSize longerLength)
    (greatest : nullableSize (longer.map ByteArray.size) + nullableSize longerLength ≤
      nullableSize (key.map ByteArray.size) + nullableSize valueLength + 2) :
    estimate key valueLength headers now + 1 ≤ estimate longer longerLength headers later ∧
      estimate longer longerLength headers later ≤ estimate key valueLength headers now + 3 := by
  have leastBody : bodySize (key.map ByteArray.size) valueLength headers + 1 ≤
      bodySize (longer.map ByteArray.size) longerLength headers := by
    simp only [bodySize]
    omega
  have greatestBody : bodySize (longer.map ByteArray.size) longerLength headers ≤
      bodySize (key.map ByteArray.size) valueLength headers + 2 := by
    simp only [bodySize]
    omega
  have grown := nullableSize_add_le_of_le leastBody
  have bounded := nullableSize_le_of_le_add (by decide) greatestBody
  rw [estimate_eq, estimate_eq]
  omega

theorem estimate_succ_value (key : Option ByteArray) (length : Nat) (headers : Headers)
    (now later : Int) :
    estimate key (some length) headers now + 1 ≤ estimate key (some (length + 1)) headers later ∧
      estimate key (some (length + 1)) headers later ≤
        estimate key (some length) headers now + 3 := by
  have step := nullableSize_succ length
  apply estimate_of_step <;> omega

/-- A value of 64 bytes has a longer length in front of it than one of 63, and so has the record
around it here. -/
example :
    recordSize (some 8121) (some 64) .empty = recordSize (some 8121) (some 63) .empty + 3 := by
  decide +kernel

theorem estimate_succ_key {key longer : ByteArray} (oneMore : longer.size = key.size + 1)
    (valueLength : Option Nat) (headers : Headers) (now later : Int) :
    estimate (some key) valueLength headers now + 1 ≤
        estimate (some longer) valueLength headers later ∧
      estimate (some longer) valueLength headers later ≤
        estimate (some key) valueLength headers now + 3 := by
  have step := nullableSize_succ key.size
  rw [← oneMore] at step
  apply estimate_of_step <;> simp only [Option.map_some] <;> omega

theorem le_headerSize (header : Header) :
    2 + header.key.utf8ByteSize + header.value.size ≤ headerSize header := by
  have name := succ_le_nullableSize header.key.utf8ByteSize
  have value := succ_le_nullableSize header.value.size
  simp only [headerSize]
  omega

/-- The sizes of headers do not depend on their order. -/
theorem sum_headerSize_of_perm {entries others : List Header} (same : entries.Perm others) :
    (entries.map headerSize).foldr (· + ·) 0 = (others.map headerSize).foldr (· + ·) 0 := by
  rw [← List.sum_eq_foldr, ← List.sum_eq_foldr]
  exact (same.map headerSize).sum_nat

theorem estimate_perm {headers others : Headers} (same : headers.entries.Perm others.entries)
    (key : Option ByteArray) (valueLength : Option Nat) (now later : Int) :
    estimate key valueLength headers now = estimate key valueLength others later := by
  simp only [estimate_eq, bodySize, Headers.size, same.length_eq, sum_headerSize_of_perm same]

/-- A header adds its name, its value and two lengths wherever it is put between the others. -/
theorem estimate_insert (key : Option ByteArray) (valueLength : Option Nat)
    (before after : List Header) (header : Header) (now later : Int) :
    estimate key valueLength ⟨before ++ after⟩ now +
        (2 + header.key.utf8ByteSize + header.value.size) ≤
      estimate key valueLength ⟨before ++ header :: after⟩ later := by
  -- Since the order does not matter, the header may as well be the first.
  have inFront : estimate key valueLength ⟨before ++ header :: after⟩ later =
      estimate key valueLength ⟨header :: (before ++ after)⟩ later :=
    estimate_perm List.perm_middle key valueLength later later
  have added := le_headerSize header
  have counted : varintSize (before ++ after).length ≤
      varintSize (header :: (before ++ after)).length := by
    apply varintSize_mono
    simp
  rw [inFront, estimate_eq, estimate_eq, Nat.add_assoc]
  apply Nat.add_le_add_left
  apply nullableSize_add_le_of_le
  simp only [bodySize, Headers.size, List.map_cons, List.foldr_cons]
  omega

section Threshold

variable (key : Option ByteArray) (headers : Headers)

theorem strictMono_estimate (now : Int) :
    StrictMono fun length => estimate key (some length) headers now := by
  apply strictMono_nat_of_lt_succ
  intro length
  exact (estimate_succ_value key length headers now now).1

/-- The lengths of values that put a record over a threshold are those from some length on. -/
theorem exists_cut (threshold : Nat) :
    ∃ cut, ∀ (length : Nat) (now : Int),
      threshold < estimate key (some length) headers now ↔ cut ≤ length := by
  have grows := strictMono_estimate key headers 0
  -- What grows with every byte is at least the number of bytes.
  have reached : ∃ length, threshold < estimate key (some length) headers 0 :=
    ⟨threshold + 1, grows.le_apply⟩
  refine ⟨Nat.find reached, fun length now => ?_⟩
  constructor
  · intro large
    exact Nat.find_min' reached large
  · intro least
    exact Nat.lt_of_lt_of_le (Nat.find_spec reached) (grows.monotone least)

end Threshold

end Framing

end PayloadDepot
