import FeatureGen.Console.Wrap

/-!
# Outlines

An outline shows labels with those below them, joined by guides.  A label that is too wide is broken
into lines, and the guides go on beside them.
-/

namespace FeatureGen.Console

/-- A label with the outlines below it. -/
inductive Outline
  | node (label : String) (below : List Outline)

namespace Outline

/-- A label with nothing below it. -/
def leaf (label : String) : Outline := .node label []

/-- A line after a guide. -/
def guided (first rest : List Char) : List (List Char) → List (List Char)
  | [] => []
  | line :: lines => (first ++ line) :: lines.map (rest ++ ·)

mutual

/-- The lines of an outline of so many cells, where `first` stands before the first line and `rest`
before the others. -/
def linesWith (size : Nat) (first rest : List Char) : Outline → List (List Char)
  | .node label below =>
    guided first rest (wrap (size - first.length) .fold label) ++ linesBelow size rest below

/-- The lines of the outlines below a label, with their guides after `outer`. -/
def linesBelow (size : Nat) (outer : List Char) : List Outline → List (List Char)
  | [] => []
  | [o] => linesWith size (outer ++ "└── ".toList) (outer ++ "    ".toList) o
  | o :: p :: os =>
    linesWith size (outer ++ "├── ".toList) (outer ++ "│   ".toList) o ++
      linesBelow size outer (p :: os)

end

/-- The lines of an outline of so many cells. -/
def lines (o : Outline) (size : Nat) : List (List Char) := linesWith size [] [] o

end Outline

end FeatureGen.Console
