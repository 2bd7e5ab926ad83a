/-
Sets of code points, written as ascending lists of closed ranges.
-/

set_option autoImplicit false

namespace StoryShell.Text

/-- Whether `n` lies in one of the ranges. They ascend, so a range that starts above `n` ends the
search. -/
def inRanges : List (Nat × Nat) → Nat → Bool
  | [], _ => false
  | (low, high) :: rest, n => low ≤ n && (n ≤ high || inRanges rest n)

end StoryShell.Text
