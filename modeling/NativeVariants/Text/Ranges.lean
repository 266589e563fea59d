/-!
# Sets of code points

A set of code points is a list of closed ranges in ascending order.
-/

namespace NativeVariants.Text

/-- Membership in ascending ranges; the search ends at the first range that begins later. -/
def inRanges : List (Nat × Nat) → Nat → Bool
  | [], _ => false
  | (first, last) :: rest, n => first ≤ n && (n ≤ last || inRanges rest n)

end NativeVariants.Text
