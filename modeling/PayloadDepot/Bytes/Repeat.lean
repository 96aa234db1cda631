/-!
# Repeated bytes

The same bytes over and over again.
-/

namespace PayloadDepot

namespace Bytes

/-- Bytes with some others behind them, as often as asked for. -/
def appendRepeated (start part : ByteArray) : (count : Nat) → ByteArray
  | 0 => start
  | count + 1 => appendRepeated (start ++ part) part count

/-- Some bytes as often as asked for, one after the other. -/
def repeated (part : ByteArray) (count : Nat) : ByteArray :=
  appendRepeated (ByteArray.emptyWithCapacity (part.size * count)) part count

theorem size_appendRepeated (start part : ByteArray) (count : Nat) :
    (appendRepeated start part count).size = start.size + count * part.size := by
  induction count generalizing start with
  | zero => simp [appendRepeated]
  | succ count inductionHypothesis =>
    rw [appendRepeated, inductionHypothesis, ByteArray.size_append, Nat.succ_mul]
    omega

@[simp]
theorem size_repeated (part : ByteArray) (count : Nat) :
    (repeated part count).size = count * part.size := by
  have emptySize : (ByteArray.emptyWithCapacity (part.size * count)).size = 0 := rfl
  rw [repeated, size_appendRepeated, emptySize, Nat.zero_add]

end Bytes

end PayloadDepot
