import FeatureGen.Json.Basic
import FeatureGen.Text.Digit
import FeatureGen.Text.Literal

/-!
# Reading JSON

`Json.read?` reads a whole text as one JSON value.  Besides what the format allows it takes `NaN`,
`Infinity` and `-Infinity` as numbers.  A string may not hold control characters or halves of
surrogate pairs, and a number may have `digitLimit` characters before its decimal point at most.

Each step takes the text that is left and gives what it read with the text that is left then.
-/

namespace FeatureGen.Json

open FeatureGen.Text (after? digitLimit hexValue?)

/-- The blanks of the format. -/
def isSpace (c : Char) : Bool := c = ' ' || c = '\n' || c = '\t' || c = '\r'

/-- The text after the blanks it starts with. -/
def skipSpace (s : List Char) : List Char := s.dropWhile isSpace

/-! ## Strings -/

/-- The value of four hexadecimal digits. -/
def hexUnit? (a b c d : Char) : Option Nat := do
  return (((← hexValue? a) * 16 + (← hexValue? b)) * 16 + (← hexValue? c)) * 16 + (← hexValue? d)

/-- The character that stands for a letter after a backslash. -/
def escaped? : Char → Option Char
  | '"' => some '"'
  | '\\' => some '\\'
  | '/' => some '/'
  | 'b' => some '\x08'
  | 'f' => some '\x0c'
  | 'n' => some '\n'
  | 'r' => some '\r'
  | 't' => some '\t'
  | _ => none

/-- The characters of a string up to its closing quote, and what follows; `done` holds the
characters before them in reverse. -/
def readString? (done : List Char) : List Char → Option (List Char × List Char)
  | [] => none
  | '"' :: s => some (done.reverse, s)
  | '\\' :: 'u' :: a :: b :: c :: d :: s =>
    match hexUnit? a b c d with
    | none => none
    | some high =>
      if 0xD800 ≤ high ∧ high < 0xDC00 then
        match s with
        | '\\' :: 'u' :: a' :: b' :: c' :: d' :: t =>
          match hexUnit? a' b' c' d' with
          | none => none
          | some low =>
            if 0xDC00 ≤ low ∧ low < 0xE000 then
              readString? (Char.ofNat (0x10000 + (high - 0xD800) * 0x400 + (low - 0xDC00)) :: done) t
            else none
        | _ => none
      else if 0xDC00 ≤ high ∧ high < 0xE000 then none
      else readString? (Char.ofNat high :: done) s
  | '\\' :: c :: s =>
    match escaped? c with
    | some e => readString? (e :: done) s
    | none => none
  | c :: s => if c = '\\' || c.toNat < 0x20 then none else readString? (c :: done) s

/-! ## Numbers -/

/-- The value of decimal digits. -/
def decimal (digits : List Char) : Nat :=
  digits.foldl (fun n c => 10 * n + (c.toNat - '0'.toNat)) 0

/-- The digits that the text starts with, of which there must be one, and what follows. -/
def readDigits? (s : List Char) : Option (List Char × List Char) :=
  match s.takeWhile Char.isDigit with
  | [] => none
  | digits => some (digits, s.dropWhile Char.isDigit)

/-- The digits after a decimal point, none if there is no point. -/
def readFraction? (s : List Char) : Option (List Char × List Char) :=
  match s with
  | '.' :: r => readDigits? r
  | _ => some ([], s)

/-- The power of ten that ends a number, if there is one. -/
def readPower? (s : List Char) : Option (Option Int × List Char) :=
  match s with
  | e :: r =>
    if e = 'e' || e = 'E' then
      match r with
      | '-' :: t => (readDigits? t).map fun (ds, u) => (some (-(decimal ds : Int)), u)
      | '+' :: t => (readDigits? t).map fun (ds, u) => (some (decimal ds : Int), u)
      | _ => (readDigits? r).map fun (ds, u) => (some (decimal ds : Int), u)
    else some (none, s)
  | [] => some (none, [])

/-- Whether the digits before a decimal point, after a minus or not, are well written: without a
zero in front of others, and not too many.  The minus counts as one of them. -/
def isWhole (negative : Bool) (whole : List Char) : Bool :=
  (whole.length ≤ 1 || whole.head? != some '0') && whole.length + negative.toNat ≤ digitLimit

/-- A number without its sign, and what follows. -/
def readNumber? (negative : Bool) (s : List Char) : Option (Json × List Char) := do
  let (whole, s) ← readDigits? s
  if !isWhole negative whole then none
  else
    let (fraction, s) ← readFraction? s
    let (power, s) ← readPower? s
    if fraction.isEmpty && power.isNone then
      let n : Int := decimal whole
      return (.int (if negative then -n else n), s)
    else
      let scale := power.getD 0 - (fraction.length : Int)
      return (.real (.ofDecimal negative (decimal (whole ++ fraction)) scale), s)

/-- A number or one of the words, and what follows. -/
def readScalar? (s : List Char) : Option (Json × List Char) :=
  let word (w : List Char) (v : Json) : Option (Json × List Char) := (after? w s).map (v, ·)
  match s with
  | 'n' :: _ => word ['n', 'u', 'l', 'l'] .null
  | 't' :: _ => word ['t', 'r', 'u', 'e'] (.bool true)
  | 'f' :: _ => word ['f', 'a', 'l', 's', 'e'] (.bool false)
  | 'N' :: _ => word ['N', 'a', 'N'] (.real .nan)
  | 'I' :: _ => word ['I', 'n', 'f', 'i', 'n', 'i', 't', 'y'] (.real (.infinite false))
  | '-' :: 'I' :: _ =>
    word ['-', 'I', 'n', 'f', 'i', 'n', 'i', 't', 'y'] (.real (.infinite true))
  | '-' :: r => readNumber? true r
  | _ => readNumber? false s

/-! ## Values

The three functions call each other, each time with less fuel; a text never needs more fuel than it
has characters. -/

mutual

/-- A value at the start of the text, and what follows. -/
def readValue? (fuel : Nat) (s : List Char) : Option (Json × List Char) :=
  match fuel with
  | 0 => none
  | fuel + 1 =>
    match s with
    | '"' :: r => (readString? [] r).map fun (cs, t) => (.str (String.ofList cs), t)
    | '[' :: r =>
      match skipSpace r with
      | ']' :: t => some (.arr [], t)
      | t => readItems? fuel [] t
    | '\x7b' :: r =>
      match skipSpace r with
      | '\x7d' :: t => some (.obj [], t)
      | t => readMembers? fuel [] t
    | _ => readScalar? s

/-- The items of an array from one of them on; `done` holds those before it in reverse. -/
def readItems? (fuel : Nat) (done : List Json) (s : List Char) : Option (Json × List Char) :=
  match fuel with
  | 0 => none
  | fuel + 1 =>
    match readValue? fuel s with
    | none => none
    | some (v, r) =>
      match skipSpace r with
      | ',' :: t => readItems? fuel (v :: done) (skipSpace t)
      | ']' :: t => some (.arr (v :: done).reverse, t)
      | _ => none

/-- The members of an object from one of them on; `done` holds those before it in reverse. -/
def readMembers? (fuel : Nat) (done : List (String × Json)) (s : List Char) :
    Option (Json × List Char) :=
  match fuel with
  | 0 => none
  | fuel + 1 =>
    match s with
    | '"' :: r =>
      match readString? [] r with
      | none => none
      | some (name, r) =>
        match skipSpace r with
        | ':' :: t =>
          match readValue? fuel (skipSpace t) with
          | none => none
          | some (v, r) =>
            let done := (String.ofList name, v) :: done
            match skipSpace r with
            | ',' :: t => readMembers? fuel done (skipSpace t)
            | '\x7d' :: t => some (.obj (lastWins done.reverse), t)
            | _ => none
        | _ => none
    | _ => none

end

/-- The value that a text writes, with blanks around it. -/
def read? (s : String) : Option Json :=
  let cs := skipSpace s.toList
  match readValue? (2 * cs.length + 1) cs with
  | some (v, rest) => if (skipSpace rest).isEmpty then some v else none
  | none => none

end FeatureGen.Json
