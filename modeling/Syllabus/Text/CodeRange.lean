/-
  Syllabus.Text.CodeRange
  ───────────────────────
  **CHARACTER CLASSES AS LISTS OF RANGES.**

  A character property of the Unicode standard (version 14) is given by the
  ranges of code points that have it, both ends included, in ascending order.
-/

namespace Syllabus.Text

/-- Whether the code point of `c` lies in one of the ranges. -/
def inRanges (ranges : List (Nat × Nat)) (c : Char) : Bool :=
  ranges.any fun (first, last) => decide (first ≤ c.toNat) && decide (c.toNat ≤ last)

end Syllabus.Text
