/-!
# Ranges of code points

A property of characters is given as a list of inclusive code point ranges in increasing order.
Membership does not depend on the order; a reader of a table does.
-/

namespace PodTunnels.Text

/-- Whether a code point lies in one of the inclusive ranges. -/
def inRanges (ranges : List (Nat × Nat)) (n : Nat) : Bool :=
  ranges.any fun r => decide (r.1 ≤ n) && decide (n ≤ r.2)

/-- Whether a character is one of those that the ranges list. -/
def among (ranges : List (Nat × Nat)) (c : Char) : Bool :=
  inRanges ranges c.toNat

end PodTunnels.Text
