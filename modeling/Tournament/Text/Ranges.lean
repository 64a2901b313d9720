/-!
# Sets of characters as ranges

A character property is a list of closed ranges of code points, in rising order.
-/

namespace Tournament.Text

/-- Whether the code point of `c` lies in one of the ranges. -/
def inRanges (ranges : List (Nat × Nat)) (c : Char) : Bool :=
  ranges.any fun r => r.1 ≤ c.toNat && c.toNat ≤ r.2

end Tournament.Text
