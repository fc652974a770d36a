/-!
# Sets of code points

A set of code points is a list of ranges, both ends included, in ascending
order.
-/

namespace EventFlow.Text

/-- Ranges of code points, both ends included. -/
abbrev Ranges := List (Nat × Nat)

/-- Whether one of the ranges holds the code point. -/
def Ranges.contains (ranges : Ranges) (code : Nat) : Bool :=
  ranges.any fun range => range.1 ≤ code && code ≤ range.2

end EventFlow.Text
