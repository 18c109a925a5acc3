/-!
# Ranges of characters

Tables of characters are lists of ranges of their numbers. A range of letters that have a partner also
gives the step between two of them and the partner of the first.
-/

namespace Changeover.Text

/-- Whether a number lies in one of the ranges, which hold both their ends. -/
def inRanges (ranges : List (Nat × Nat)) (n : Nat) : Bool :=
  ranges.any fun r => r.1 ≤ n && n ≤ r.2

/-- The partner of a number: the ranges give their first and last number, the step between two of
their numbers and the partner of the first. -/
def partner? (ranges : List (Nat × Nat × Nat × Nat)) (n : Nat) : Option Nat :=
  (ranges.find? fun (lo, hi, step, _) => lo ≤ n && n ≤ hi && (n - lo) % step == 0).map
    fun (lo, _, _, first) => first + (n - lo)

end Changeover.Text
