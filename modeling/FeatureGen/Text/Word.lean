import FeatureGen.Text.WordTable

/-!
# Word characters

Letters, digits and the underscore make up words.  Above ASCII the letters and digits are those of
`wordRanges`.
-/

namespace FeatureGen.Text

/-- Word characters. -/
def isWord (c : Char) : Bool :=
  let n := c.toNat
  if n < 0x80 then c.isAlphanum || c == '_'
  else wordRanges.any fun (lo, hi) => lo ≤ n && n ≤ hi

/-- The longest run of word characters at the start, and what follows it. -/
def spanWord (s : List Char) : List Char × List Char := (s.takeWhile isWord, s.dropWhile isWord)

/-- Whether a word ends between a word character and the text that follows it. -/
def endsWord : List Char → Bool
  | [] => true
  | c :: _ => !isWord c

end FeatureGen.Text
