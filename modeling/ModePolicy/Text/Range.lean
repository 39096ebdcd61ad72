/-!
Classes of characters given as lists of closed ranges of code points.
-/

namespace ModePolicy.Text

/-- The code point lies in one of the ranges, ends included. -/
def inRanges (ranges : List (Nat × Nat)) (n : Nat) : Bool :=
  ranges.any fun r => r.1 ≤ n && n ≤ r.2

end ModePolicy.Text
