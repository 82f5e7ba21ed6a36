import FeatureGen.Json.Basic

/-!
# Writing JSON

Three written forms.  `Json.pretty` puts each item on a line of its own, indented by two blanks a
level, and leaves characters outside ASCII as they are.  `Json.compact` has no blanks at all and is
ASCII.  `Json.scriptSafe` writes one string so that it may stand in a script inside a page: ASCII,
with the angle brackets, the ampersand and the single quote escaped as well.
-/

namespace FeatureGen.Json

open FeatureGen.Number (Binary64)

/-! ## Strings -/

/-- The digit for a value below sixteen. -/
def hexChar (n : Nat) : Char := if n < 10 then Char.ofNat (48 + n) else Char.ofNat (87 + n)

/-- One unit of sixteen bits as an escape. -/
def unitEscape (n : Nat) : List Char :=
  ['\\', 'u', hexChar (n / 4096 % 16), hexChar (n / 256 % 16), hexChar (n / 16 % 16),
    hexChar (n % 16)]

/-- The escape that a string must have for a character, if there is one. -/
def required? (c : Char) : Option (List Char) :=
  if c = '"' then some ['\\', '"']
  else if c = '\\' then some ['\\', '\\']
  else if c = '\n' then some ['\\', 'n']
  else if c = '\r' then some ['\\', 'r']
  else if c = '\t' then some ['\\', 't']
  else if c = '\x08' then some ['\\', 'b']
  else if c = '\x0c' then some ['\\', 'f']
  else if c.toNat < 0x20 then some (unitEscape c.toNat)
  else none

/-- A character in a string that keeps what lies outside ASCII. -/
def keepChar (c : Char) : List Char := (required? c).getD [c]

/-- A character in a string of ASCII alone; one above `U+FFFF` is written as two units. -/
def asciiChar (c : Char) : List Char :=
  (required? c).getD <|
    if c.toNat < 0x7F then [c]
    else if c.toNat < 0x10000 then unitEscape c.toNat
    else
      let n := c.toNat - 0x10000
      unitEscape (0xD800 + n / 0x400) ++ unitEscape (0xDC00 + n % 0x400)

/-- A character in a string that is safe inside a script. -/
def scriptChar (c : Char) : List Char :=
  if c = '<' || c = '>' || c = '&' || c = '\'' then unitEscape c.toNat else asciiChar c

/-- A string whose characters are written one by one. -/
def quote (write : Char → List Char) (s : String) : List Char :=
  '"' :: s.toList.flatMap write ++ ['"']

/-- A string that is safe inside a script. -/
def scriptSafe (s : String) : String := String.ofList (quote scriptChar s)

/-! ## Values -/

/-- The decimal digits of a number, least one digit. -/
def digits (n : Nat) : List Char := Nat.toDigits 10 n

/-- A real number, exactly: every binary fraction is a decimal one. -/
def realChars : Binary64 → List Char
  | .nan => "NaN".toList
  | .infinite negative => (if negative then "-Infinity" else "Infinity").toList
  | .finite negative m e =>
    let places := (-e).toNat
    let ds := digits (m * Number.twoTo e.toNat * Nat.pow 5 places)
    let ds := List.replicate (places + 1 - ds.length) '0' ++ ds
    let (whole, fraction) := ds.splitAt (ds.length - places)
    (if negative then ['-'] else []) ++ whole ++ '.' :: (if fraction.isEmpty then ['0'] else fraction)

/-- A value that holds no others. -/
def scalar (write : Char → List Char) : Json → List Char
  | .null => "null".toList
  | .bool true => "true".toList
  | .bool false => "false".toList
  | .int (.ofNat n) => digits n
  | .int (.negSucc n) => '-' :: digits (n + 1)
  | .real x => realChars x
  | .str s => quote write s
  | .arr _ => "[]".toList
  | .obj _ => "\x7b\x7d".toList

/-- A new line, indented by two blanks a level. -/
def newline (level : Nat) : List Char := '\n' :: List.replicate (2 * level) ' '

mutual

/-- A value with each item on a line of its own. -/
def prettyChars (level : Nat) : Json → List Char
  | .arr (v :: vs) =>
    '[' :: newline (level + 1) ++ prettyChars (level + 1) v ++ prettyItems (level + 1) vs ++
      newline level ++ [']']
  | .obj ((name, v) :: ms) =>
    '\x7b' :: newline (level + 1) ++ quote keepChar name ++ [':', ' '] ++
      prettyChars (level + 1) v ++ prettyMembers (level + 1) ms ++ newline level ++ ['\x7d']
  | v => scalar keepChar v

/-- The items after the first. -/
def prettyItems (level : Nat) : List Json → List Char
  | [] => []
  | v :: vs => ',' :: newline level ++ prettyChars level v ++ prettyItems level vs

/-- The members after the first. -/
def prettyMembers (level : Nat) : List (String × Json) → List Char
  | [] => []
  | (name, v) :: ms =>
    ',' :: newline level ++ quote keepChar name ++ [':', ' '] ++ prettyChars level v ++
      prettyMembers level ms

end

/-- A value with each item on a line of its own. -/
def pretty (v : Json) : String := String.ofList (prettyChars 0 v)

mutual

/-- A value without blanks, in ASCII. -/
def compactChars : Json → List Char
  | .arr (v :: vs) => '[' :: compactChars v ++ compactItems vs ++ [']']
  | .obj ((name, v) :: ms) =>
    '\x7b' :: quote asciiChar name ++ ':' :: compactChars v ++ compactMembers ms ++ ['\x7d']
  | v => scalar asciiChar v

/-- The items after the first. -/
def compactItems : List Json → List Char
  | [] => []
  | v :: vs => ',' :: compactChars v ++ compactItems vs

/-- The members after the first. -/
def compactMembers : List (String × Json) → List Char
  | [] => []
  | (name, v) :: ms => ',' :: quote asciiChar name ++ ':' :: compactChars v ++ compactMembers ms

end

/-- A value without blanks, in ASCII. -/
def compact (v : Json) : String := String.ofList (compactChars v)

example : pretty (.obj [("a", .arr [.int 1, .null]), ("b", .arr [])]) =
    "\x7b\n  \"a\": [\n    1,\n    null\n  ],\n  \"b\": []\n\x7d" := by decide

example : String.ofList (realChars (.finite true 3 (-3))) = "-0.375" := by decide

end FeatureGen.Json
