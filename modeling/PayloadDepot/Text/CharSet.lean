/-!
# Character sets given by their boundaries

A character property of the Unicode standard is a union of many intervals of
code points.  Listing in ascending order the code points at which membership
changes describes such a set in one flat list, and membership is the parity of
the number of boundaries at or below a code point.
-/

namespace PayloadDepot

namespace Text

/-- A set of characters, given by the ascending code points at which membership changes. -/
structure CharSet where
  boundaries : List Nat

namespace CharSet

/-- Whether an odd number of the leading boundaries lie at or below a code point. -/
def insideFrom : List Nat → Nat → Bool
  | [], _ => false
  | boundary :: later, codePoint =>
      if codePoint < boundary then false else !insideFrom later codePoint

def contains (set : CharSet) (character : Char) : Bool :=
  insideFrom set.boundaries character.toNat

@[simp]
theorem insideFrom_nil (codePoint : Nat) : insideFrom [] codePoint = false := rfl

theorem insideFrom_eq_false_of_lt {boundary codePoint : Nat} {later : List Nat}
    (below : codePoint < boundary) : insideFrom (boundary :: later) codePoint = false := by
  simp [insideFrom, below]

theorem insideFrom_cons_of_le {boundary codePoint : Nat} {later : List Nat}
    (reached : boundary ≤ codePoint) :
    insideFrom (boundary :: later) codePoint = !insideFrom later codePoint := by
  simp [insideFrom, Nat.not_lt.mpr reached]

end CharSet

end Text

end PayloadDepot
