import FeatureGen.Text.Digit
import FeatureGen.Text.EntityTable
import FeatureGen.Text.Literal

/-!
# Character references

A text may write a character as a reference: `&#38;` and `&#x26;` by its code point, `&amp;` by its
name.  The semicolon of a number may be left out, and that of some names; the longest name that
starts what stands after the `&` then counts, and the rest is kept.  A reference that is none stays
as it is written.

Code points that a reference may not name have replacements: zero, surrogates and numbers that are
no code points become `U+FFFD`, the controls `U+0080` to `U+009F` become the characters that the
Windows-1252 encoding gives those octets, and other controls and noncharacters become nothing.

A code point in decimal digits may have `digitLimit` of them; with more the whole text is refused.
Hexadecimal digits have no such limit.
-/

namespace FeatureGen.Text

/-! ## References by number -/

/-- The characters of Windows-1252 for the octets `0x80` to `0x9F`; unassigned octets stand for
themselves. -/
def windowsControls : List Nat :=
  [0x20AC, 0x81, 0x201A, 0x0192, 0x201E, 0x2026, 0x2020, 0x2021, 0x02C6, 0x2030, 0x0160, 0x2039,
   0x0152, 0x8D, 0x017D, 0x8F, 0x90, 0x2018, 0x2019, 0x201C, 0x201D, 0x2022, 0x2013, 0x2014,
   0x02DC, 0x2122, 0x0161, 0x203A, 0x0153, 0x9D, 0x017E, 0x0178]

/-- Code points that a reference by number drops. -/
def isDropped (n : Nat) : Bool :=
  (1 ≤ n && n ≤ 8) || n == 0x0B || (0x0E ≤ n && n ≤ 0x1F) || (0x7F ≤ n && n ≤ 0x9F) ||
  (0xFDD0 ≤ n && n ≤ 0xFDEF) || n % 0x10000 == 0xFFFE || n % 0x10000 == 0xFFFF

/-- What a reference to a code point stands for. -/
def ofCodePoint (n : Nat) : List Char :=
  if n = 0 then ['\ufffd']
  else if 0x80 ≤ n ∧ n ≤ 0x9F then [Char.ofNat (windowsControls.getD (n - 0x80) n)]
  else if n = 0x0D then ['\r']
  else if (0xD800 ≤ n ∧ n ≤ 0xDFFF) ∨ 0x10FFFF < n then ['\ufffd']
  else if isDropped n then []
  else [Char.ofNat n]

/-- The number that digits of a base write. -/
def natOfBase (base : Nat) (digits : List Nat) : Nat :=
  digits.foldl (fun n d => base * n + d) 0

/-- The value of a digit of a base. -/
def baseDigit? (base : Nat) (c : Char) : Option Nat := (hexValue? c).filter (· < base)

/-- Digits of a base. -/
def isBaseDigit (base : Nat) (c : Char) : Bool := (baseDigit? base c).isSome

/-- The text after a semicolon, if it starts with one. -/
def skipSemicolon : List Char → List Char
  | ';' :: s => s
  | s => s

/-- The character whose code point digits of a base write. -/
def ofDigits (base : Nat) (digits : List Char) : List Char :=
  ofCodePoint (natOfBase base (digits.filterMap (baseDigit? base)))

/-- A reference by hexadecimal number without its `&#x`: what it stands for and what follows it. -/
def hexReference? (s : List Char) : Option (List Char × List Char) :=
  (spanSome? (isBaseDigit 16) s).map fun (digits, rest) => (ofDigits 16 digits, skipSemicolon rest)

/-- A reference by decimal number without its `&#`: what it stands for and what follows it. -/
def decimalReference? (s : List Char) : Except DigitFault (Option (List Char × List Char)) :=
  match spanSome? (isBaseDigit 10) s with
  | none => .ok none
  | some (digits, rest) =>
    if digitLimit < digits.length then .error ⟨digits.length⟩
    else .ok (some (ofDigits 10 digits, skipSemicolon rest))

/-- A reference by number without its `&#`: what it stands for and what follows it. -/
def numberReference? : List Char → Except DigitFault (Option (List Char × List Char))
  | 'x' :: s => .ok (hexReference? s)
  | 'X' :: s => .ok (hexReference? s)
  | s => decimalReference? s

/-! ## References by name -/

/-- Characters that end the name of a reference. -/
def endsName (c : Char) : Bool :=
  c = '\t' || c = '\n' || c = '\x0c' || c = ' ' || c = '<' || c = '&' || c = '#' || c = ';'

/-- The characters of a name that is written with its semicolon. -/
def named? (name : List Char) : Option (List Char) :=
  (referenceTable[String.ofList name]?).map (·.map Char.ofNat)

/-- The characters of a name that may be written without its semicolon. -/
def legacyNamed? (name : List Char) : Option (List Char) :=
  if legacyTable.contains (String.ofList name) then named? name else none

/-- The longest start of a name, of at most the given length and of two characters at least, that
may be written without its semicolon: its characters and its length. -/
def longestLegacy? (name : List Char) : Nat → Option (List Char × Nat)
  | 0 => none
  | 1 => none
  | n + 2 =>
    match legacyNamed? (name.take (n + 2)) with
    | some cs => some (cs, n + 2)
    | none => longestLegacy? name (n + 1)

/-- A reference by name without its `&`: what it stands for and what follows it.  A name has at most
32 characters. -/
def nameReference? (s : List Char) : Option (List Char × List Char) :=
  let name := (s.take 32).takeWhile fun c => !endsName c
  let rest := s.drop name.length
  let closed := if rest.head? = some ';' then named? name else none
  match closed with
  | some cs => some (cs, rest.drop 1)
  | none => (longestLegacy? name name.length).map fun (cs, n) => (cs, s.drop n)

/-- The reference that starts with an `&` before the text: what it stands for and what follows. -/
def reference? : List Char → Except DigitFault (Option (List Char × List Char))
  | '#' :: s => numberReference? s
  | s => .ok (nameReference? s)

/-! ## Decoding -/

/-- The text with each of its references replaced.  The fuel bounds the characters that are read. -/
def decodeReferencesWith : Nat → List Char → Except DigitFault (List Char)
  | 0, s => .ok s
  | _ + 1, [] => .ok []
  | fuel + 1, c :: s =>
    if c = '&' then
      match reference? s with
      | .error fault => .error fault
      | .ok (some (cs, rest)) => (decodeReferencesWith fuel rest).map (cs ++ ·)
      | .ok none => (decodeReferencesWith fuel s).map (c :: ·)
    else (decodeReferencesWith fuel s).map (c :: ·)

/-- The text with each of its references replaced. -/
def decodeReferences (s : List Char) : Except DigitFault (List Char) :=
  decodeReferencesWith s.length s

end FeatureGen.Text
