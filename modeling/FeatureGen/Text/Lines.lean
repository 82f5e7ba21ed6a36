/-!
# Lines

A text is divided into lines at every line break of Unicode: line feed, carriage return (one break
when a line feed follows), vertical tab, form feed, the three information separators `U+001C` to
`U+001E`, next line, line separator and paragraph separator.  A text that ends with a break has no
empty line after it.
-/

namespace FeatureGen.Text

/-- Characters that end a line. -/
def isLineBreak (c : Char) : Bool :=
  let n := c.toNat
  (0x0A ≤ n && n ≤ 0x0D) || (0x1C ≤ n && n ≤ 0x1E) || n == 0x85 || n == 0x2028 || n == 0x2029

/-- The lines of a text, where `line` holds the start of the first one in reverse, if there is one
yet. -/
def splitLinesFrom (line : List Char) : List Char → List (List Char)
  | [] => if line.isEmpty then [] else [line.reverse]
  | [c] => if isLineBreak c then [line.reverse] else [(c :: line).reverse]
  | c :: d :: s =>
    if c = '\r' && d = '\n' then line.reverse :: splitLinesFrom [] s
    else if isLineBreak c then line.reverse :: splitLinesFrom [] (d :: s)
    else splitLinesFrom (c :: line) (d :: s)

/-- The lines of a text, without their breaks. -/
def splitLines (s : List Char) : List (List Char) := splitLinesFrom [] s

/-- The text in which every line feed, carriage return, or pair of them is one line feed. -/
def unifyNewlines : List Char → List Char
  | [] => []
  | '\r' :: '\n' :: s => '\n' :: unifyNewlines s
  | c :: s => (if c = '\r' then '\n' else c) :: unifyNewlines s

example : splitLines "a\r\nb\n\nc\n".toList = ["a".toList, "b".toList, [], "c".toList] := by decide

example : unifyNewlines "a\r\n\rb\n".toList = "a\n\nb\n".toList := by decide

end FeatureGen.Text
