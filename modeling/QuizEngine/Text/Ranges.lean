/-!
# Ranges of characters

A class of characters is a list of ranges of code points, first and last included.
-/

namespace QuizEngine.Text

/-- Whether the character lies in one of the ranges. -/
def inRanges (ranges : List (Nat × Nat)) (c : Char) : Bool :=
  ranges.any fun r => r.1 ≤ c.toNat && c.toNat ≤ r.2

end QuizEngine.Text
