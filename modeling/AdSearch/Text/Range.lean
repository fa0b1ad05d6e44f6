/-!
# Sets of code points as ranges
-/

namespace AdSearch.Text

/-- Membership in ascending ranges, giving up at the first range that starts beyond `n`. -/
def inRanges : List (Nat × Nat) → Nat → Bool
  | [], _ => false
  | (lo, hi) :: rest, n =>
    if n < lo then false else if n ≤ hi then true else inRanges rest n

end AdSearch.Text
