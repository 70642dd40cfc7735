/-!
# Ranges of code points

Sets of characters as lists of closed ranges of code points, ascending and apart from each other.
The tables of this library that are taken from the Unicode Character Database are of this form.
-/

namespace FrameReplay.Text

/-- Closed ranges of code points. -/
abbrev Ranges := Array (Nat × Nat)

/-- Whether a code point lies in one of the ranges. -/
def Ranges.contains (ranges : Ranges) (n : Nat) : Bool :=
  ranges.any fun (low, high) => low ≤ n && n ≤ high

end FrameReplay.Text
