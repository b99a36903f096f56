/-!
# Ranges of code points

A class of characters is given by the ranges of its code points, in increasing order.
-/

namespace PortMap.Text

/-- Whether a number lies in one of the ranges, which are in increasing order. -/
def inRanges (n : Nat) : List (Nat × Nat) → Bool
  | [] => false
  | (low, high) :: rest => if n < low then false else n ≤ high || inRanges n rest

end PortMap.Text
