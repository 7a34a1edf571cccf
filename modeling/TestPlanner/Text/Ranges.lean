/-!
# Ranges of code points

A class of characters is given by the ranges of its code points, each with both ends.
-/

set_option autoImplicit false

namespace TestPlanner.Text

/-- Whether a code point lies in one of the ranges. -/
def inRanges (ranges : List (Nat × Nat)) (n : Nat) : Bool :=
  ranges.any fun r => r.1 ≤ n && n ≤ r.2

end TestPlanner.Text
