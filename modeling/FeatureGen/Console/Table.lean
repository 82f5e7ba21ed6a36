import FeatureGen.Console.Wrap
import FeatureGen.Number.Rounding
import FeatureGen.Text.Lines

/-!
# Tables

A table has a title, a heading for each column, and rows.  A column is as wide as its widest cell.
If the table is too wide for the console the widest columns are narrowed, and their cells are broken
into lines; the words that then do not fit are cut off.
-/

namespace FeatureGen.Console

open FeatureGen.Text

/-- A column of a table. -/
structure Column where
  /-- The heading. -/
  header : String
  /-- Whether the cells stand at the right. -/
  alignRight : Bool := false
  /-- Whether the cells may be broken into lines. -/
  canWrap : Bool := true

/-- A table. -/
structure Table where
  /-- The title. -/
  title : String
  /-- The columns. -/
  columns : List Column
  /-- The rows, with a cell for each column. -/
  rows : List (List String)

/-! ## Widths -/

/-- The cells of the widest line of a text. -/
def maxWidth (s : String) : Nat :=
  ((splitLines (shown s.toList)).map width).foldl max 0

/-- The widest cells that a column asks for, with a blank on each side. -/
def columnWidth (limit : Nat) (texts : List String) : Nat :=
  min limit ((texts.map fun s => maxWidth s + 2).foldl max 0)

/-- Values reduced by a total, which is shared out among those with a ratio, each by no more than a
maximum. -/
def reduceByRatio (total : Nat) (ratios : List Nat) (maximum : Nat) (values : List Nat) :
    List Nat :=
  go total (Number.total ratios) ratios values
where
  /-- The values reduced by what is left of the total. -/
  go (left ratioLeft : Nat) : List Nat → List Nat → List Nat
    | ratio :: ratios, value :: values =>
      if ratio = 0 ∨ maximum = 0 then value :: go left ratioLeft ratios values
      else
        let part := min maximum (Number.divHalfEven (ratio * left : Nat) ratioLeft).toNat
        (value - part) :: go (left - part) (ratioLeft - ratio) ratios values
    | _, values => values

/-- Widths narrowed to a total: the widest columns that may be broken are brought down to the next
widest, again and again.  The fuel bounds the rounds. -/
def collapse (limit : Nat) (canWrap : List Bool) : Nat → List Nat → List Nat
  | 0, widths => widths
  | fuel + 1, widths =>
    let excess := Number.total widths - limit
    let breakable := (widths.zip canWrap).filterMap fun (w, b) => if b then some w else none
    let widest := breakable.foldl max 0
    let second := (breakable.filter (· != widest)).foldl max 0
    if excess = 0 ∨ widest = second then widths
    else
      let ratios := (widths.zip canWrap).map fun (w, b) => if b && w = widest then 1 else 0
      collapse limit canWrap fuel (reduceByRatio excess ratios (min excess (widest - second)) widths)

/-- The texts of the columns, headings first. -/
def Table.columnTexts (t : Table) : List (List String) :=
  t.columns.zipIdx.map fun (c, i) => c.header :: t.rows.map fun row => row.getD i ""

/-- The widths of the columns in a console of so many cells, with a blank on each side. -/
def Table.widths (t : Table) (size : Nat) : List Nat :=
  let limit := size - (t.columns.length + 1)
  let texts := t.columnTexts
  let wanted := texts.map (columnWidth limit)
  if Number.total wanted ≤ limit then wanted
  else
    let canWrap := t.columns.map (·.canWrap)
    let narrowed := collapse limit canWrap (wanted.length + 1) wanted
    let narrowed :=
      if Number.total narrowed ≤ limit then narrowed
      else reduceByRatio (Number.total narrowed - limit) (narrowed.map fun _ => 1) size narrowed
    (texts.zip narrowed).map fun (column, w) => columnWidth w column

/-! ## Lines -/

/-- The lines of a cell, each of so many cells with a blank on each side. -/
def cellLines (c : Column) (size : Nat) (s : String) : List (List Char) :=
  let inner := size - 2
  (wrap inner .ellipsis s).map fun line =>
    let padded :=
      if c.alignRight then List.replicate (inner - width line) ' ' ++ line else padRight inner line
    ' ' :: padded ++ [' ']

/-- A line across the table. -/
def ruleLine (left fill between right : Char) (widths : List Nat) : List Char :=
  left :: (List.intercalate [between] (widths.map (List.replicate · fill))) ++ [right]

/-- The lines of a row, as many as its tallest cell has. -/
def rowLines (edge between : Char) (columns : List Column) (widths : List Nat)
    (row : List String) : List (List Char) :=
  let cells := ((columns.zip widths).zip row).map fun ((c, w), s) => (w, cellLines c w s)
  let height := (cells.map fun cell => cell.2.length).foldl max 1
  (List.range height).map fun i =>
    edge :: (List.intercalate [between]
      (cells.map fun (w, lines) => (lines[i]?).getD (List.replicate w ' '))) ++ [edge]

/-- The lines of the title, each in the middle of so many cells. -/
def titleLines (size : Nat) (title : String) : List (List Char) :=
  (wrap size .fold title).map fun line =>
    let line := trimEnd line
    List.replicate ((size - width line) / 2) ' ' ++ line

/-- The lines of a table in a console of so many cells. -/
def Table.lines (t : Table) (size : Nat) : List (List Char) :=
  let widths := t.widths size
  let total := Number.total widths + t.columns.length + 1
  titleLines total t.title ++
  [ruleLine '┏' '━' '┳' '┓' widths] ++
  rowLines '┃' '┃' t.columns widths (t.columns.map (·.header)) ++
  [ruleLine '┡' '━' '╇' '┩' widths] ++
  t.rows.flatMap (rowLines '│' '│' t.columns widths) ++
  [ruleLine '└' '─' '┴' '┘' widths]

end FeatureGen.Console
