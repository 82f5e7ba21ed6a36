import FeatureGen.Number.Natural
import FeatureGen.Text.WidthTable

/-!
# Cells

How many cells of a terminal a text takes.  A character takes none, one or two; control characters
take none.
-/

namespace FeatureGen.Text

/-- The cells of a character. -/
def cells (c : Char) : Nat :=
  let n := c.toNat
  let within := fun (ranges : List (Nat × Nat)) => ranges.any fun (lo, hi) => lo ≤ n && n ≤ hi
  if 0x20 ≤ n && n < 0x7F then 1
  else if within zeroWidthRanges then 0
  else if within wideRanges then 2
  else 1

/-- The cells of a text. -/
def width (s : List Char) : Nat := Number.total (s.map cells)

end FeatureGen.Text
