/-!
# Classes of characters as ranges of code points

A class beyond ASCII is a list of closed ranges in ascending order; `inRanges` looks a code point up in it.
-/

namespace BracketSpacing.Text

/-- Closed ranges of code points. -/
abbrev Ranges := List (Nat × Nat)

/-- Whether the code point lies in one of the ranges. -/
def inRanges (ranges : Ranges) (n : Nat) : Bool :=
  ranges.any fun (lo, hi) => lo ≤ n && n ≤ hi

end BracketSpacing.Text
