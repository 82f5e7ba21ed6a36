import FeatureGen.Text.Blank
import FeatureGen.Text.Split
import FeatureGen.Text.Width

/-!
# Fitting text into columns

A line that is too wide is broken between words.  A word that is too wide for any line is folded
over several lines or is cut off with an ellipsis.  A word keeps the blanks after it, and the blanks
at the end of a line do not count.
-/

namespace FeatureGen.Console

open FeatureGen.Text

/-- What is done with a word that fits on no line. -/
inductive Overflow
  /-- It is folded over several lines. -/
  | fold
  /-- It is cut off. -/
  | ellipsis
  deriving DecidableEq, Repr

/-! ## Characters -/

/-- Control characters that are left out of what is shown. -/
def isDropped (c : Char) : Bool := [7, 8, 11, 12, 13].contains c.toNat

/-- The text without a backslash in front of an opening bracket, and without some controls. -/
def shown : List Char → List Char
  | [] => []
  | '\\' :: '[' :: s => '[' :: shown s
  | c :: s => if isDropped c then shown s else c :: shown s

/-- The text with tabs replaced by blanks up to the next multiple of eight cells, where `column` is
the cell the text starts at. -/
def expandTabs (column : Nat) : List Char → List Char
  | [] => []
  | c :: s =>
    if c = '\t' then
      let gap := 8 - column % 8
      List.replicate gap ' ' ++ expandTabs (column + gap) s
    else c :: expandTabs (column + cells c) s

/-- The start of a text that fits into so many cells, filled up with blanks if a wide character is
cut. -/
def fit (size : Nat) : List Char → List Char
  | [] => []
  | c :: s =>
    if cells c ≤ size then c :: fit (size - cells c) s else List.replicate size ' '

/-- The text cut to so many cells. -/
def truncate (size : Nat) (overflow : Overflow) (s : List Char) : List Char :=
  if width s ≤ size then s
  else
    match overflow with
    | .fold => fit size s
    | .ellipsis => fit (size - 1) s ++ ['…']

/-- The text with blanks after it up to so many cells. -/
def padRight (size : Nat) (s : List Char) : List Char := s ++ List.replicate (size - width s) ' '

/-! ## Words -/

/-- The words of a text with the blanks after them.  `word` holds the first word so far in reverse,
`inWord` says that it has a character that is no blank, and `after` that blanks follow it. -/
def wordsFrom (word : List Char) (inWord after : Bool) : List Char → List (List Char)
  | [] => if inWord then [word.reverse] else []
  | c :: s =>
    if isBlank c then wordsFrom (c :: word) inWord inWord s
    else if after then word.reverse :: wordsFrom [c] true false s
    else wordsFrom (c :: word) true false s

/-- The words of a text, each with the blanks after it, the first also with those before it. -/
def words (s : List Char) : List (List Char) := wordsFrom [] false false s

/-- The pieces of a word that fit into so many cells each; `piece` holds the first one so far in
reverse, which takes `used` cells. -/
def foldFrom (size used : Nat) (piece : List Char) : List Char → List (List Char)
  | [] => [piece.reverse]
  | c :: s =>
    if size < used + cells c then piece.reverse :: foldFrom size (cells c) [c] s
    else foldFrom size (used + cells c) (c :: piece) s

/-! ## Lines -/

/-- Lines that are being filled. -/
structure Lines where
  /-- The lines that are full, last first. -/
  full : List (List Char) := []
  /-- The line that is being filled. -/
  current : List Char := []
  /-- The cells that it is taken to use. -/
  used : Nat := 0

/-- The lines with the current one full, unless it is empty, and a text on the next. -/
def Lines.startWith (l : Lines) (s : List Char) : Lines :=
  { full := if l.current.isEmpty then l.full else l.current :: l.full
    current := s
    used := width s }

/-- The lines with one more word. -/
def Lines.add (size : Nat) (overflow : Overflow) (l : Lines) (word : List Char) : Lines :=
  let need := width (trimEnd word)
  if l.used + need ≤ size then
    { l with current := l.current ++ word, used := l.used + width word }
  else if size < need then
    match overflow with
    | .fold => (foldFrom size 0 [] word).foldl Lines.startWith l
    | .ellipsis => l.startWith word
  else if l.used = 0 then { l with current := l.current ++ word }
  else l.startWith word

/-- A line broken into lines of so many cells. -/
def wrapLine (size : Nat) (overflow : Overflow) (s : List Char) : List (List Char) :=
  match words s with
  | [] => [s]
  | ws =>
    let l := ws.foldl (Lines.add size overflow) {}
    ((l.current :: l.full).reverse).map fun line => truncate size overflow (trimEnd line)

/-- A text broken into lines of so many cells. -/
def wrap (size : Nat) (overflow : Overflow) (s : String) : List (List Char) :=
  (pieces '\n' (shown s.toList)).flatMap fun line => wrapLine size overflow (expandTabs 0 line)

example : (wrap 8 .fold "one two three fourteens").map String.ofList =
    ["one two", "three", "fourteen", "s"] := by decide

example : (wrap 8 .ellipsis "one fourteens").map String.ofList = ["one", "fourtee…"] := by
  decide

end FeatureGen.Console
