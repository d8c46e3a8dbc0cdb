/-
This file holds sets of characters given as ascending ranges of code points.
Membership walks the ranges and stops at the first one that begins past the
code point, so characters near the front are found at once.
-/

namespace ColdStart

/-- Ascending ranges of code points, both ends included. -/
abbrev CodeRanges := List (Nat × Nat)

/-- Whether a code point lies in one of the ranges. -/
def CodeRanges.contains : CodeRanges → Nat → Bool
  | [], _ => false
  | (first, last) :: rest, code =>
    if code < first then false
    else if code ≤ last then true
    else CodeRanges.contains rest code

end ColdStart
