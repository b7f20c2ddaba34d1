/-!
Sets of characters given as ascending lists of code point ranges.
-/

namespace TypeLineage.Text

/-- Membership of a code point in an ascending list of closed ranges. -/
def inRanges (n : Nat) : List (Nat × Nat) → Bool
  | [] => false
  | (lo, hi) :: rest => if n < lo then false else n ≤ hi || inRanges n rest

end TypeLineage.Text
