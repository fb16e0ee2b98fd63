/-!
# Sets of code points

A character class is a table of inclusive ranges of code points. The first range that holds a code
point is found by going through the table.
-/

namespace SExpr

/-- A set of code points: inclusive ranges, in increasing order. -/
abbrev Ranges := List (Nat × Nat)

namespace Ranges

/-- The first range that holds the code point `n`. -/
def find? (ranges : Ranges) (n : Nat) : Option (Nat × Nat) :=
  List.find? (fun r => decide (r.1 ≤ n) && decide (n ≤ r.2)) ranges

/-- Does one of the ranges hold the code point `n`? -/
def holds (ranges : Ranges) (n : Nat) : Bool :=
  ranges.any fun r => decide (r.1 ≤ n) && decide (n ≤ r.2)

/-- A range is found exactly when one holds the code point. -/
theorem isSome_find? (ranges : Ranges) (n : Nat) :
    (ranges.find? n).isSome = ranges.holds n := by
  simp [find?, holds, List.isSome_find?]

end Ranges

end SExpr
