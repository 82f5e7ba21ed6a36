import FeatureGen.Text.DigitTable

/-!
# Decimal digits

The decimal digits of Unicode come in runs of ten, one run for each script; `digitZeros` lists where
the runs start.  `groupedDigits?` reads a whole number in which single underscores may group the
digits.

The text of a whole number in decimal digits may have `digitLimit` of them.  With more it is not
read as a number, which is a fault of its own (`DigitFault`).
-/

namespace FeatureGen.Text

/-- The value of a decimal digit of any script. -/
def digitValue? (c : Char) : Option Nat :=
  let n := c.toNat
  (digitZeros.find? fun start => start ≤ n && n < start + 10).map (n - ·)

/-- Decimal digits of any script. -/
def isDigit (c : Char) : Bool := (digitValue? c).isSome

/-- The value of a hexadecimal digit. -/
def hexValue? (c : Char) : Option Nat :=
  if '0' ≤ c && c ≤ '9' then some (c.toNat - '0'.toNat)
  else if 'a' ≤ c && c ≤ 'f' then some (c.toNat - 'a'.toNat + 10)
  else if 'A' ≤ c && c ≤ 'F' then some (c.toNat - 'A'.toNat + 10)
  else none

/-- The number that a list of digit values writes, most significant first. -/
def natOfDigits (digits : List Nat) : Nat := digits.foldl (fun n d => 10 * n + d) 0

/-- The digit values of a text of digits, where a single underscore may stand between two of them.
`afterDigit` says whether a digit was read just before. -/
def groupedDigits? (afterDigit : Bool) : List Char → Option (List Nat)
  | [] => if afterDigit then some [] else none
  | c :: s =>
    if c = '_' then
      if afterDigit then groupedDigits? false s else none
    else do
      let d ← digitValue? c
      return d :: (← groupedDigits? true s)

example : groupedDigits? false "1_20".toList = some [1, 2, 0] := by decide

example : groupedDigits? false "1__2".toList = none := by decide

example : groupedDigits? false "12_".toList = none := by decide

/-! ## Too many digits -/

/-- The most decimal digits that the text of a whole number may have. -/
def digitLimit : Nat := 4300

/-- The text of a whole number has more decimal digits than it may have. -/
structure DigitFault where
  /-- How many it has. -/
  count : Nat
  deriving DecidableEq, Repr

/-- What is wrong, in words. -/
def DigitFault.message (f : DigitFault) : String :=
  "Exceeds the limit (" ++ toString digitLimit ++
    " digits) for integer string conversion: value has " ++ toString f.count ++
    " digits; use sys.set_int_max_str_digits() to increase the limit"

end FeatureGen.Text
