import FeatureGen.Text.PrintTable

/-!
# Quoted text in messages

A message quotes a text between single quotes, or between double quotes when the text holds a single
quote and no double one.  The quote that is used, the backslash and every character that cannot be
printed are escaped.
-/

namespace FeatureGen.Text

/-- Characters that a message shows as they are. -/
def isPrintable (c : Char) : Bool :=
  let n := c.toNat
  0x20 ≤ n && !unprintableRanges.any fun (lo, hi) => lo ≤ n && n ≤ hi

/-- The lowercase hexadecimal digits of a number, with zeros in front up to a given width. -/
def hexDigits (width n : Nat) : List Char :=
  let digits := Nat.toDigits 16 n
  List.replicate (width - digits.length) '0' ++ digits

/-- One character of a quoted text. -/
def escapeChar (quote c : Char) : List Char :=
  if c = quote || c = '\\' then ['\\', c]
  else if c = '\t' then ['\\', 't']
  else if c = '\n' then ['\\', 'n']
  else if c = '\r' then ['\\', 'r']
  else if isPrintable c then [c]
  else if c.toNat < 0x100 then '\\' :: 'x' :: hexDigits 2 c.toNat
  else if c.toNat < 0x10000 then '\\' :: 'u' :: hexDigits 4 c.toNat
  else '\\' :: 'U' :: hexDigits 8 c.toNat

/-- The quote that surrounds a text. -/
def quoteFor (s : List Char) : Char := if '\'' ∈ s ∧ '"' ∉ s then '"' else '\''

/-- A text in quotes, as messages show it. -/
def quoted (s : String) : String :=
  let q := quoteFor s.toList
  String.ofList (q :: s.toList.flatMap (escapeChar q) ++ [q])

example : quoted "it's" = "\"it's\"" := by decide +kernel

example : quoted "a\n\\\x7f" = "'a\\n\\\\\\x7f'" := by decide +kernel

end FeatureGen.Text
