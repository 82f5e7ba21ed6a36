import FeatureGen.Console.Outline
import FeatureGen.Console.Table
import FeatureGen.Json.Printer

/-!
# The console

What is printed is a list of blocks, one after another: texts, tables, outlines and JSON values.
`render` gives the text of all of them for a console of 1000 cells, without blanks at the ends of
lines.  JSON values are not broken into lines.
-/

namespace FeatureGen.Console

/-- Something that is printed. -/
inductive Block
  /-- A text; line feeds in it end lines. -/
  | text (s : String)
  /-- A table. -/
  | table (t : Table)
  /-- An outline. -/
  | outline (o : Outline)
  /-- A JSON value. -/
  | json (v : Json)

/-- The cells of a line of the console. -/
def consoleWidth : Nat := 1000

/-- An empty line. -/
def blankLine : Block := .text ""

/-- The lines of a block. -/
def Block.lines : Block → List (List Char)
  | .text s => wrap consoleWidth .fold s
  | .table t => t.lines consoleWidth
  | .outline o => o.lines consoleWidth
  | .json v => Text.pieces '\n' v.pretty.toList

/-- The text of several blocks. -/
def render (blocks : List Block) : String :=
  String.ofList <|
    (blocks.flatMap Block.lines).flatMap fun line => Text.trimEnd line ++ ['\n']

end FeatureGen.Console
