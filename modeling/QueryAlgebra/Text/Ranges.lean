/-!
# Ranges of characters

Properties of characters that are given by a list of ranges of character numbers.
-/

namespace QueryAlgebra

/-- A character number lies in one of the listed ranges. -/
def inRanges (ranges : List (Nat × Nat)) (n : Nat) : Bool :=
  ranges.any fun r => r.1 ≤ n && n ≤ r.2

end QueryAlgebra
