/-!
# Ranges of code points

Properties of characters are given as lists of closed ranges of code points.
-/

set_option autoImplicit false

namespace StoryWorld.Text

/-- Whether a code point lies in one of the closed ranges. -/
def inRanges (ranges : List (Nat × Nat)) (code : Nat) : Bool :=
  ranges.any fun range => decide (range.1 ≤ code ∧ code ≤ range.2)

end StoryWorld.Text
