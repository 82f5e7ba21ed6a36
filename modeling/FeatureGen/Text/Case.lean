import FeatureGen.Text.CaseTable

/-!
# Upper and lower case

The full case mappings of Unicode.  A character may become several: `ß` has the capital `SS`.  The
lowercase of a capital sigma depends on its neighbours: at the end of a word it is `ς`.

`caseKey` is a coarser thing: it sends each character to the first of those that differ from it in
case alone, one for one, so that two texts agree up to case when their keys agree.
-/

namespace FeatureGen.Text

/-- Where a list of runs moves a code point, if one of them holds it. -/
def CaseRun.apply? (runs : List CaseRun) (n : Nat) : Option Nat :=
  (runs.find? fun r => r.first ≤ n && n ≤ r.last && (n - r.first) % r.step == 0).map
    fun r => ((n : Int) + r.shift).toNat

/-- Whether one of the inclusive ranges holds the code point of a character. -/
def inRanges (ranges : List (Nat × Nat)) (c : Char) : Bool :=
  ranges.any fun (lo, hi) => lo ≤ c.toNat && c.toNat ≤ hi

/-- A character moved by a list of runs; one that is in none of them stays. -/
def moveByRuns (runs : List CaseRun) (c : Char) : Char :=
  match CaseRun.apply? runs c.toNat with
  | some n => Char.ofNat n
  | none => c

/-! ## Lowercase -/

/-- The lowercase of a character away from the end of a word. -/
def lowerChar (c : Char) : List Char :=
  if c.toNat < 0x80 then [c.toLower]
  else if c = 'İ' then ['i', '\u0307']
  else [moveByRuns lowerRuns c]

/-- Characters passed over when the neighbours of a sigma are looked for. -/
def isCaseIgnorable (c : Char) : Bool := inRanges caseIgnorableRanges c

/-- Characters that have a case. -/
def isCased (c : Char) : Bool := inRanges casedRanges c

/-- Whether the next character that counts has a case. -/
def startsCased (s : List Char) : Bool :=
  match s.dropWhile isCaseIgnorable with
  | [] => false
  | c :: _ => isCased c

/-- Lowercase of a text, where `afterCased` says whether the last character that counts before it
has a case. -/
def lowerFrom (afterCased : Bool) : List Char → List Char
  | [] => []
  | c :: s =>
    let after := if isCaseIgnorable c then afterCased else isCased c
    if c = 'Σ' then
      (if afterCased && !startsCased s then 'ς' else 'σ') :: lowerFrom after s
    else lowerChar c ++ lowerFrom after s

/-- The lowercase of a text. -/
def lower (s : List Char) : List Char := lowerFrom false s

/-- The lowercase of a text given as a string. -/
def lowercase (s : String) : String := String.ofList (lower s.toList)

/-! ## Uppercase -/

/-- The uppercase of a character. -/
def upperChar (c : Char) : List Char :=
  if c.toNat < 0x80 then [c.toUpper]
  else
    match upperSpecials.lookup c.toNat with
    | some ns => ns.map Char.ofNat
    | none => [moveByRuns upperRuns c]

/-- The text with its first character in uppercase. -/
def upperFirst : List Char → List Char
  | [] => []
  | c :: s => upperChar c ++ s

/-- The text with its first character in lowercase.  A sigma on its own ends no word. -/
def lowerFirst : List Char → List Char
  | [] => []
  | c :: s => lower [c] ++ s

/-! ## Equality up to case -/

/-- The first of the characters that differ from this one in case alone. -/
def caseKey (c : Char) : Char :=
  if c.toNat < 0x80 then c.toLower else moveByRuns caseKeyRuns c

example : lower "ΟΔΟΣ".toList = "οδος".toList := by decide +kernel

example : upperFirst "ßx".toList = "SSx".toList := by decide

example : caseKey '\u212a' = caseKey 'K' := by decide

end FeatureGen.Text
