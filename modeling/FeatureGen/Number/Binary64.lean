import FeatureGen.Number.Rounding

/-!
# Binary floating point

The numbers of the 64-bit binary floating-point format: a significand of 53 bits times a power of
two not below `2 ^ -1074`, the infinities, and the value that is no number.  `ofDecimal` takes a
decimal to the nearest of them, a half to the even significand.
-/

namespace FeatureGen.Number

/-- A number of the 64-bit binary format. -/
inductive Binary64
  /-- The significand times two to the power of the exponent, below zero if `negative`. -/
  | finite (negative : Bool) (significand : Nat) (exponent : Int)
  /-- Infinity of either sign. -/
  | infinite (negative : Bool)
  /-- No number. -/
  | nan
  deriving DecidableEq, Repr

namespace Binary64

/-- The nearest number to a quotient of two positive numbers. -/
def ofQuotient (negative : Bool) (num den : Nat) : Binary64 :=
  let least : Int := -1074
  let guess : Int := max least ((bitLength num : Int) - bitLength den - 53)
  let scaled (e : Int) : Nat × Nat := (num * twoTo (-e).toNat, den * twoTo e.toNat)
  let e := if (scaled guess).2 * twoTo 53 ≤ (scaled guess).1 then guess + 1 else guess
  let q := (divHalfEven (scaled e).1 (scaled e).2).toNat
  if 1024 < bitLength (q * twoTo e.toNat) then .infinite negative else .finite negative q e

/-- The nearest number to a decimal, which is given by its digits as a whole number and the power of
ten they are taken times. -/
def ofDecimal (negative : Bool) (digits : Nat) (power : Int) : Binary64 :=
  let places := (Nat.toDigits 10 digits).length
  if digits = 0 then .finite negative 0 0
  else if 320 < power + places then .infinite negative
  else if power + places < -400 then .finite negative 0 0
  else ofQuotient negative (digits * tenTo power.toNat) (tenTo (-power).toNat)

/-- The whole number that a number is, if it is one. -/
def toInt? : Binary64 → Option Int
  | .finite negative m e =>
    let magnitude : Option Nat :=
      if 0 ≤ e then some (m * twoTo e.toNat)
      else if m % twoTo (-e).toNat = 0 then some (m / twoTo (-e).toNat)
      else none
    magnitude.map fun n => if negative then -(n : Int) else n
  | _ => none

example : (ofDecimal false 25 (-1)).toInt? = none := by decide

example : (ofDecimal true 9007199254740993 0).toInt? = some (-9007199254740992) := by decide

example : (ofDecimal false 30 (-1)).toInt? = some 3 := by decide

end Binary64

end FeatureGen.Number
