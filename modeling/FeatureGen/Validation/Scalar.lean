import FeatureGen.Text.Blank
import FeatureGen.Text.Digit
import FeatureGen.Validation.Basic

/-!
# Strings, truth values and numbers

What a value may be so that it is taken for a string, a truth value or a whole number.  A string is
taken from nothing else.  A truth value may be given as zero or one, or as one of a few words.  A
whole number may be given as a truth value, as a number without a fraction, or as a text.

The text of a whole number may have blanks around it, a sign, zeros in front, single underscores
between digits, and a decimal point with nothing but zeros after it.
-/

namespace FeatureGen.Validation

open FeatureGen.Number (Binary64)
open FeatureGen.Text

/-- A string. -/
def string : Json → Checked String
  | .str s => .ok s
  | _ => .fail .notString

/-- A string, or nothing. -/
def optionalString : Json → Checked (Option String)
  | .null => .ok none
  | v => (string v).map some

/-- A list of strings. -/
def strings (source : Source) : Json → Checked (List String)
  | .arr items => Checked.items string 0 items
  | _ => .fail (.notList source)

/-- A list of strings in fixed order. -/
def stringTuple (source : Source) : Json → Checked (List String)
  | .arr items => Checked.items string 0 items
  | _ => .fail (.notTuple source)

/-! ## Truth values -/

/-- The truth value that a text names. -/
def boolOfText? (s : String) : Option Bool :=
  let word := String.ofList (s.toList.map Char.toLower)
  if ["true", "t", "yes", "y", "on", "1"].contains word then some true
  else if ["false", "f", "no", "n", "off", "0"].contains word then some false
  else none

/-- The first number that is too large for 64 bits with a sign. -/
def int64Bound : Int := Number.twoTo 63

/-- The truth value that a number names. -/
def boolOfInt (n : Int) : Checked Bool :=
  if n = 0 then .ok false
  else if n = 1 then .ok true
  else if -int64Bound ≤ n ∧ n < int64Bound then .fail .unreadableBool
  else .fail .notBool

/-- A truth value. -/
def bool : Json → Checked Bool
  | .bool b => .ok b
  | .str s =>
    match boolOfText? s with
    | some b => .ok b
    | none => .fail .unreadableBool
  | .int n => boolOfInt n
  | .real x =>
    match x.toInt? with
    | some n => if n = -int64Bound then .fail .notBool else boolOfInt n
    | none => .fail .notBool
  | _ => .fail .notBool

/-! ## Whole numbers -/

/-- Blanks around the text of a number: all but the information separators. -/
def isMargin (c : Char) : Bool := isBlank c && !(0x1C ≤ c.toNat && c.toNat ≤ 0x1F)

/-- The text without the characters at its ends that satisfy a test. -/
def strip (test : Char → Bool) (s : List Char) : List Char :=
  ((s.dropWhile test).reverse.dropWhile test).reverse

/-- A digit of the decimal system. -/
def decimalDigits? (s : List Char) : Option (List Nat) :=
  if s.isEmpty then none else s.mapM fun c => if c.isDigit then some (c.toNat - '0'.toNat) else none

/-- The number that digits write, without zeros in front, after a minus if there is one. -/
def plainInt? : List Char → Option Int
  | '-' :: s => (unsigned? s).map fun n => -(n : Int)
  | s => (unsigned? s).map fun n => (n : Int)
where
  /-- The number that digits write, without zeros in front. -/
  unsigned? (s : List Char) : Option Nat :=
    if s.head? = some '0' && 1 < s.length then none else (decimalDigits? s).map natOfDigits

/-- The text without zeros and underscores in front of other digits.  Before a decimal point one
character is kept. -/
def dropZeros? : List Char → Option (List Char)
  | [] => none
  | c :: s =>
    if c = '0' then go c s
    else if ('1' ≤ c ∧ c ≤ '9') ∨ c = '-' then some (c :: s)
    else none
where
  /-- The text from the first character that counts on, where `last` stands before it. -/
  go (last : Char) : List Char → Option (List Char)
    | [] => some [last]
    | c :: s =>
      if c = '0' ∨ c = '_' then go c s
      else if ('1' ≤ c ∧ c ≤ '9') ∨ c = '-' then some (c :: s)
      else if c = '.' then some (last :: c :: s)
      else none

/-- The text without a decimal point that only zeros follow. -/
def dropFraction (s : List Char) : List Char :=
  if ((s.dropWhile (· != '.')).drop 1).all (· == '0') then s.takeWhile (· != '.') else s

/-- Whether two underscores stand side by side. -/
def hasDoubleUnderscore : List Char → Bool
  | '_' :: '_' :: _ => true
  | _ :: s => hasDoubleUnderscore s
  | [] => false

/-- The text without underscores, if they stand singly between other characters. -/
def dropUnderscores (s : List Char) : List Char :=
  if s.head? = some '_' || s.getLast? = some '_' || hasDoubleUnderscore s then s
  else s.filter (· != '_')

/-- The number that a text writes. -/
def intOfText? (s : List Char) : Option Int :=
  match plainInt? s with
  | some n => some n
  | none => do
    let s := strip isMargin s
    let s := match s with
      | '+' :: r => if r.head? = some '-' then s else r
      | _ => s
    let s ← dropZeros? s
    plainInt? (dropUnderscores (dropFraction s))

/-- A whole number. -/
def int : Json → Checked Int
  | .int n => .ok n
  | .bool b => .ok (if b then 1 else 0)
  | .real x =>
    match x with
    | .finite .. =>
      match x.toInt? with
      | some n => if n ≤ -int64Bound ∨ int64Bound ≤ n then .fail .oversizedInt else .ok n
      | none => .fail .fractional
    | _ => .fail .notFinite
  | .str s =>
    if digitLimit < s.utf8ByteSize then .fail .oversizedInt
    else
      match intOfText? s.toList with
      | some n => .ok n
      | none => .fail .unreadableInt
  | _ => .fail .notInt

/-- A whole number that is not below zero. -/
def natural (v : Json) : Checked Nat :=
  match int v with
  | .ok (.ofNat n) => .ok n
  | .ok (.negSucc _) => .fail .negative
  | .error vs => .error vs

example : ["7", " 7 ", "+7", "-0", "1_000", "007", "7.0", "0.0"].map (intOfText? ·.toList) =
    [some 7, some 7, some 7, some 0, some 1000, some 7, some 7, some 0] := by decide

example : ["", "7.5", "0x7", "_1", "1__0", "+-1", "٣"].map (intOfText? ·.toList) =
    List.replicate 7 none := by decide

end FeatureGen.Validation
