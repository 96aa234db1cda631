import Mathlib.Algebra.Ring.Nat
import PayloadDepot.Proofs.Storage.Bucket.Transfer

/-!
# How streams are cut into parts

The parts of an upload that succeeds are numbered by the words from one on, so
without a gap as long as there are words for their numbers.  All of them have
the size of a part but for the last one, which has what is left of the declared
length, and together they never exceed it.  The completion lists exactly these
parts with the tags that the store gave them.
-/

namespace PayloadDepot

/-- A part that was sent, and what the store answered. -/
structure SentPart where
  number : Int32
  body : ByteArray
  answer : StoreAnswer

namespace SentPart

def exchange (bucket key id : String) (part : SentPart) : StoreExchange :=
  ⟨.uploadPart bucket key id part.number part.body, .ok part.answer⟩

/-- What the completion of an upload tells of a part. -/
def listed (part : SentPart) : Int32 × Option String :=
  (part.number, part.answer.tag)

end SentPart

namespace BucketDepot

/-- Parts that are cut off one after the other, from some number on, until nothing remains. -/
inductive CutFrom (partSize : Nat) : (remaining : Nat) → (number : Int32) →
    List SentPart → Prop
  | nothing (number : Int32) : CutFrom partSize 0 number []
  | cut {remaining : Nat} {number : Int32} {later : List SentPart} (part : SentPart)
      (numbered : part.number = number) (size : part.body.size = min remaining partSize)
      (positive : 0 < part.body.size)
      (rest : CutFrom partSize (remaining - part.body.size) (number + 1) later) :
      CutFrom partSize remaining number (part :: later)

/-- The parts of a payload of some length. -/
structure Cut (partSize length : Nat) (parts : List SentPart) : Prop where
  count : parts.length = (length + partSize - 1) / partSize
  words : parts.map (·.number) = partNumbers 1 parts.length
  /-- As long as there are words for the numbers of the parts, there is no gap between them. -/
  numbered : parts.length < 2 ^ 31 →
    parts.map (·.number.toInt) = (List.range' 1 parts.length).map Int.ofNat
  full : ∀ part ∈ parts.dropLast, part.body.size = partSize
  last : ∀ part ∈ parts.getLast?, 1 ≤ part.body.size ∧ part.body.size ≤ partSize
  within : ∀ earlier part later, parts = earlier ++ part :: later →
    (earlier.map (·.body.size)).sum + part.body.size ≤ length

namespace CutFrom

variable {partSize remaining : Nat} {number : Int32} {parts : List SentPart}

theorem eq_nil (cut : CutFrom partSize 0 number parts) : parts = [] := by
  cases cut with
  | nothing => rfl
  | cut part numbered size positive rest => omega

theorem count (cut : CutFrom partSize remaining number parts) (positive : 0 < partSize) :
    parts.length = (remaining + partSize - 1) / partSize := by
  induction cut with
  | nothing number => exact (Nat.div_eq_of_lt (by omega)).symm
  | @cut remaining number later part numbered size filled rest inductionHypothesis =>
      rw [List.length_cons, inductionHypothesis, size]
      rcases Nat.le_total remaining partSize with small | large
      · rw [Nat.min_eq_left small, Nat.sub_self, Nat.zero_add,
          Nat.div_eq_of_lt (by omega), Nat.zero_add]
        exact (Nat.div_eq_of_lt_le (by omega) (by omega)).symm
      · have more : remaining + partSize - 1 = remaining - partSize + partSize - 1 + partSize := by
          omega
        rw [Nat.min_eq_right large, more, Nat.add_div_right _ positive]

theorem words {first : Nat} (cut : CutFrom partSize remaining (.ofNat first) parts) :
    parts.map (·.number) = partNumbers first parts.length := by
  generalize start : Int32.ofNat first = number at cut
  induction cut generalizing first with
  | nothing number => rfl
  | cut part numbered size positive rest inductionHypothesis =>
      subst start
      rw [List.map_cons, numbered, inductionHypothesis (ofNat_succ first).symm, List.length_cons,
        partNumbers_succ]

theorem size_mem (cut : CutFrom partSize remaining number parts) :
    ∀ part ∈ parts, 1 ≤ part.body.size ∧ part.body.size ≤ partSize := by
  induction cut with
  | nothing number => nofun
  | cut part numbered size positive rest inductionHypothesis =>
      rw [List.forall_mem_cons]
      exact ⟨⟨positive, by omega⟩, inductionHypothesis⟩

theorem full (cut : CutFrom partSize remaining number parts) :
    ∀ part ∈ parts.dropLast, part.body.size = partSize := by
  induction cut with
  | nothing number => nofun
  | @cut remaining number later part numbered size positive rest inductionHypothesis =>
      cases later with
      | nil => nofun
      | cons next later =>
          rw [List.dropLast_cons_cons, List.forall_mem_cons]
          refine ⟨?_, inductionHypothesis⟩
          -- Something is left behind the part, so it is not cut short.
          have left : remaining - part.body.size ≠ 0 := by
            intro nothing
            rw [nothing] at rest
            exact List.cons_ne_nil _ _ rest.eq_nil
          omega

/-- The parts have all of the payload between them. -/
theorem sum_sizes (cut : CutFrom partSize remaining number parts) :
    (parts.map (·.body.size)).sum = remaining := by
  induction cut with
  | nothing number => rfl
  | cut part numbered size positive rest inductionHypothesis =>
      rw [List.map_cons, List.sum_cons, inductionHypothesis]
      omega

theorem toCut (cut : CutFrom partSize remaining 1 parts) (positive : 0 < partSize) :
    Cut partSize remaining parts where
  count := cut.count positive
  words := cut.words
  numbered := map_toInt_of_words cut.words
  full := cut.full
  last part mem := cut.size_mem part (List.mem_of_getLast? mem)
  within earlier part later split := by
    have whole := cut.sum_sizes
    rw [split, List.map_append, List.map_cons, List.sum_append, List.sum_cons] at whole
    omega

end CutFrom

/-- What is sent for a payload of some length that is transferred: one object, or an upload of its
parts. -/
inductive Shipped (bucket key : String) (partSize length : Nat) : Transcript → Prop
  | whole (body : ByteArray) (answer : StoreAnswer) (size : body.size = length)
      (fits : length ≤ partSize) :
      Shipped bucket key partSize length [⟨.putObject bucket key body, .ok answer⟩]
  | parts (id : String) (parts : List SentPart) (answer : StoreAnswer)
      (cut : Cut partSize length parts) (larger : partSize < length) :
      Shipped bucket key partSize length
        (⟨.createUpload bucket key, .ok (.upload (some id))⟩ ::
          (parts.map (·.exchange bucket key id) ++
            [⟨.completeUpload bucket key id (parts.map (·.listed)), .ok answer⟩]))

section Transfers

variable {bucket key id : String} {partSize remaining length : Nat} {number : Int32}
  {sent : Transcript}

theorem PartsSent.exists_cut {listed : List (Int32 × Option String)} (positive : 0 < partSize)
    (partsSent : PartsSent bucket key id partSize remaining number (.ok listed) sent) :
    ∃ parts, CutFrom partSize remaining number parts ∧
      sent = parts.map (·.exchange bucket key id) ∧ listed = parts.map (·.listed) := by
  generalize succeeded : Except.ok listed = outcome at partsSent
  induction partsSent generalizing listed with
  | done nothing =>
      obtain rfl := Except.ok.inj succeeded
      rw [(Nat.min_eq_zero_iff.mp nothing).resolve_right (Nat.ne_of_gt positive)]
      exact ⟨[], .nothing _, rfl, rfl⟩
  | unread | refused => cases succeeded
  | @sent _ number outcome later body answer size filled rest inductionHypothesis =>
      cases outcome with
      | error fault => cases succeeded
      | ok others =>
          obtain ⟨parts, cut, rfl, rfl⟩ := inductionHypothesis rfl
          obtain rfl := Except.ok.inj succeeded
          exact ⟨⟨number, body, answer⟩ :: parts, .cut _ rfl size filled cut, rfl, rfl⟩

/-- What was sent for a payload that was transferred is the payload as a whole or in its parts. -/
theorem Transferred.shipped (positive : 0 < partSize)
    (transferred : Transferred bucket key partSize length (.ok ()) sent) :
    Shipped bucket key partSize length sent := by
  cases transferred with
  | put body answer size fits => exact .whole body answer size fits
  | completed id partsSent answer larger =>
      obtain ⟨parts, cut, rfl, rfl⟩ := partsSent.exists_cut positive
      exact .parts id parts answer (cut.toCut positive) larger

/-- Behind the part with the greatest number comes one with the least number. -/
theorem Shipped.exists_least (positive : 0 < partSize) (long : (2 ^ 31 - 1) * partSize < length)
    (shipped : Shipped bucket key partSize length sent) :
    ∃ id body answer,
      (⟨.uploadPart bucket key id Int32.minValue body, answer⟩ : StoreExchange) ∈ sent := by
  cases shipped with
  | whole body answer size fits => omega
  | parts id parts answer cut larger =>
      have many : 2 ^ 31 ≤ parts.length := by
        rw [cut.count, Nat.le_div_iff_mul_le positive]
        omega
      have least : Int32.minValue ∈ parts.map (·.number) := by
        rw [cut.words]
        exact List.mem_map.mpr ⟨2 ^ 31, List.mem_range'_1.mpr (by omega), by decide⟩
      obtain ⟨part, mem, number⟩ := List.mem_map.mp least
      refine ⟨id, part.body, .ok part.answer, List.mem_cons_of_mem _ (List.mem_append_left _ ?_)⟩
      exact List.mem_map.mpr ⟨part, mem, by rw [SentPart.exchange, number]⟩

end Transfers

end BucketDepot

end PayloadDepot
