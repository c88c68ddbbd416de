/-!
# Ranges of characters

A class of characters as a list of ranges of code points, both ends included.
-/

namespace Reify.Text

/-- Whether a character lies in one of the ranges. -/
def inRanges (ranges : List (Nat × Nat)) (c : Char) : Bool :=
  ranges.any fun (low, high) ↦ low ≤ c.toNat && c.toNat ≤ high

end Reify.Text
