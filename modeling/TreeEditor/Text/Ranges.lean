/-!
# Sets of characters

A property of characters is given as a list of inclusive ranges of code points in ascending order.
-/

namespace TreeEditor.Text

/-- Inclusive ranges of code points, in ascending order. -/
abbrev Ranges := List (Nat × Nat)

/-- Whether a code point is in one of the ranges. The search ends at the first range that starts
beyond it. -/
def Ranges.contains : Ranges → Nat → Bool
  | [], _ => false
  | (first, last) :: ranges, n =>
    if n < first then false else n ≤ last || Ranges.contains ranges n

end TreeEditor.Text
