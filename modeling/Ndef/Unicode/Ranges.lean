/-!
# Sets of characters

A set of characters is a list of ranges of code points, both ends included.
-/

namespace Ndef

/-- A set of characters as ranges of code points. -/
abbrev CharRanges := List (Nat × Nat)

/-- Whether one of the ranges holds the character. -/
def CharRanges.contains (ranges : CharRanges) (c : Char) : Bool :=
  ranges.any fun (low, high) => low ≤ c.toNat && c.toNat ≤ high

end Ndef
