import FeatureGen.Number.Rounding

/-!
# Sizes in kilobytes

A number of bytes is shown in whole kilobytes.  The quotient is taken in binary floating point, with
53 significant bits, and then rounded to a whole number; both times a half goes to the even
neighbour.  A quotient beyond the range of the format has no such text.
-/

namespace FeatureGen.Analysis

open FeatureGen.Number

/-- The number of kilobytes to show, if the quotient is in range. -/
def kilobytes? (bytes : Int) : Option Int :=
  let n := roundToBits 53 bytes
  if 1034 < bitLength n.natAbs then none else some (divHalfEven n 1024)

/-- A number of bytes as it is shown, if the quotient is in range. -/
def sizeText? (bytes : Int) : Option String := (kilobytes? bytes).map fun k => toString k ++ "KB"

/-- What is wrong with a number of bytes that is out of range, in words. -/
def sizeOverflowMessage : String := "integer division result too large for a float"

example : [0, 3000, 512, 1536, 2560].map sizeText? =
    [some "0KB", some "3KB", some "0KB", some "2KB", some "2KB"] := by decide

end FeatureGen.Analysis
