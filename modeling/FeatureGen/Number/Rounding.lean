import FeatureGen.Number.Natural

/-!
# Rounding to nearest

`divHalfEven` rounds a quotient to the nearest whole number and a half to the even neighbour.
`roundToBits` keeps the leading binary digits of a whole number and rounds the rest away by the same
rule.
-/

namespace FeatureGen.Number

/-- The quotient rounded to the nearest whole number, a half to the even neighbour. -/
def divHalfEven (n : Int) (d : Nat) : Int :=
  let q := n / d
  let r := n % d
  if 2 * r < d then q
  else if d < 2 * r then q + 1
  else if q % 2 = 0 then q
  else q + 1

/-- The number of binary digits; zero has none. -/
def bitLength (n : Nat) : Nat := if n = 0 then 0 else n.log2 + 1

/-- A whole number rounded to so many leading binary digits. -/
def roundToBits (bits : Nat) (n : Int) : Int :=
  let unit := twoTo (bitLength n.natAbs - bits)
  divHalfEven n unit * unit

example : [divHalfEven 5 2, divHalfEven 7 2, divHalfEven (-5) 2, divHalfEven (-7) 4] = [2, 4, -2, -2] := by
  decide

example : roundToBits 3 (-27) = -28 := by decide

end FeatureGen.Number
