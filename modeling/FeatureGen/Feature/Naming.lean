import FeatureGen.Text.Blank
import FeatureGen.Text.Case

/-!
# Spelling styles of names

A name of several words is spelled in one of four styles: `pascalCase`, `camelCase`, `kebabCase` and
`snakeCase`.  In the name that is given, words are divided by hyphens, underscores and blanks, or by
a capital letter after a small one; the first two styles look only at the former and keep inner
capitals.
-/

namespace FeatureGen.Feature

open FeatureGen.Text

/-- Small letters of ASCII. -/
def isSmall (c : Char) : Bool := 'a' ≤ c && c ≤ 'z'

/-- Capital letters of ASCII. -/
def isCapital (c : Char) : Bool := 'A' ≤ c && c ≤ 'Z'

/-- Small letters and digits of ASCII. -/
def isSmallOrDigit (c : Char) : Bool := isSmall c || ('0' ≤ c && c ≤ '9')

/-! ## Words -/

/-- The words between separators, with the start of the first one in reverse; empty ones are left
out. -/
def wordsFrom (isSep : Char → Bool) (word : List Char) : List Char → List (List Char)
  | [] => if word.isEmpty then [] else [word.reverse]
  | c :: s =>
    if isSep c then
      if word.isEmpty then wordsFrom isSep [] s else word.reverse :: wordsFrom isSep [] s
    else wordsFrom isSep (c :: word) s

/-- Hyphens, underscores and blanks. -/
def isSeparator (c : Char) : Bool := c = '-' || c = '_' || isBlank c

/-- The text in which each run of characters that satisfy a test is one character; `inRun` says
whether such a run stands before the text. -/
def squeeze (test : Char → Bool) (mark : Char) (inRun : Bool) : List Char → List Char
  | [] => []
  | c :: s =>
    if test c then
      if inRun then squeeze test mark true s else mark :: squeeze test mark true s
    else c :: squeeze test mark false s

/-- The text with a mark between a small letter or digit and a capital after it. -/
def markCapitals (mark : Char) : List Char → List Char
  | [] => []
  | c :: s =>
    if isSmallOrDigit c && s.head?.any isCapital then c :: mark :: markCapitals mark s
    else c :: markCapitals mark s

/-- The text with an underscore before each capital that a small letter follows, except at the start
of a line.  `inWord` says that the small letters of such a word come first. -/
def markWords (inWord : Bool) : List Char → List Char
  | [] => []
  | [c] => [c]
  | c :: d :: s =>
    if inWord && isSmall c then c :: markWords true (d :: s)
    else if c != '\n' && isCapital d && s.head?.any isSmall then c :: '_' :: d :: markWords true s
    else c :: markWords false (d :: s)

/-! ## Styles -/

/-- `SomeThing`. -/
def pascalChars (s : List Char) : List Char := (wordsFrom isSeparator [] s).flatMap upperFirst

/-- `SomeThing`: the words joined, each with its first letter in uppercase. -/
def pascalCase (s : String) : String := String.ofList (pascalChars s.toList)

/-- The name with its first letter in lowercase. -/
def smallFirst (s : String) : String := String.ofList (lowerFirst s.toList)

/-- `someThing`: as `pascalCase`, with the first letter in lowercase. -/
def camelCase (s : String) : String := smallFirst (pascalCase s)

/-- `some-thing`: lowercase words joined by hyphens. -/
def kebabCase (s : String) : String :=
  String.ofList <|
    lower (squeeze (fun c => c = '_' || isBlank c) '-' false (markCapitals '-' s.toList))

/-- `some_thing`: lowercase words joined by underscores. -/
def snakeCase (s : String) : String :=
  String.ofList <|
    lower (squeeze (fun c => c = '-' || isBlank c) '_' false
      (markCapitals '_' (markWords false s.toList)))

example : (pascalCase "blog-post", camelCase "blog_post", kebabCase "BlogPost",
    snakeCase "HTTPServer") = ("BlogPost", "blogPost", "blog-post", "http_server") := by
  decide

end FeatureGen.Feature
