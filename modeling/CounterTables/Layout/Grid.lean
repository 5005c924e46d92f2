import CounterTables.Text.Blank
import CounterTables.Text.ControlSequence
import CounterTables.Text.Width

/-!
# Bordered tables

A grid has a header and rows of cells. Every column is as wide as its widest
cell, with one space on either side. A cell with several lines makes its row
higher.

## Main definitions

* `Grid` — cells, alignment and style.
* `Grid.render` — the lines of the grid.
-/

namespace CounterTables.Layout

open CounterTables.Text (carryStyles columns pieces withoutSequences)

/-! ## Grids -/

/-- The lines between cells. -/
structure GridStyle where
  /-- Between two columns. -/
  divider : String
  /-- Whether rows are divided by lines. -/
  dividesRows : Bool

namespace GridStyle

/-- Solid lines between all cells. -/
def full : GridStyle := ⟨"│", true⟩

/-- Dashed lines between columns, and none between rows. -/
def condensed : GridStyle := ⟨"┆", false⟩

end GridStyle

structure Grid where
  style : GridStyle
  header : List String
  rows : List (List String)
  /-- Whether the column with this number is aligned to the right. -/
  alignsRight : Nat → Bool

namespace Grid

/-! ## Cells -/

/-- The lines of a cell, each with the styles that reach into it. -/
def cellLines (cell : String) : List String :=
  carryStyles [] ((pieces (· == '\n') cell.toList).map String.ofList)

/-- The width of a line without what only the terminal reads. -/
def lineWidth (line : String) : Nat :=
  columns (withoutSequences line)

/-- The width of a cell: that of its widest line. -/
def cellWidth (cell : String) : Nat :=
  ((cellLines cell).map lineWidth).foldl max 0

/-- A line of a cell, as wide as its column. -/
def fitLine (right : Bool) (width : Nat) (line : String) : String :=
  let space := String.ofList (List.replicate (width - lineWidth line) ' ')
  " " ++ (if right then space ++ line else line ++ space) ++ " "

/-- The widths of the columns. -/
def widths (grid : Grid) : List Nat :=
  (grid.header.zipIdx).map fun (_, column) =>
    ((grid.header :: grid.rows).map fun row =>
      cellWidth (row.getD column "")).foldl max 0

/-! ## Lines -/

/-- A horizontal line. -/
def rule (widths : List Nat) (left fill cross right : String) : String :=
  left
    ++ cross.intercalate (widths.map fun width =>
      String.join (List.replicate (width + 2) fill))
    ++ right

/-- The lines of a row, in columns of some widths. -/
def rowLines (grid : Grid) (widths : List Nat) (row : List String) : List String :=
  let cells := row.map cellLines
  let height := (cells.map List.length).foldl max 1
  (List.range height).map fun index =>
    let parts := (widths.zipIdx).map fun (width, column) =>
      fitLine (grid.alignsRight column) width ((cells.getD column []).getD index "")
    "│" ++ grid.style.divider.intercalate parts ++ "│"

/-- The lines of all rows, with lines between the rows if the style has any. -/
def bodyLines (grid : Grid) (widths : List Nat) : List String :=
  let rows := grid.rows.map (grid.rowLines widths)
  if grid.style.dividesRows then [rule widths "├" "─" "┼" "┤"].intercalate rows
  else rows.flatten

/-- The lines of the grid. -/
def lines (grid : Grid) : List String :=
  let widths := grid.widths
  rule widths "╭" "─" "┬" "╮" :: grid.rowLines widths grid.header
    ++ rule widths "╞" "═" "╪" "╡" :: grid.bodyLines widths
    ++ [rule widths "╰" "─" "┴" "╯"]

/-- The text of the grid, each line with its end. -/
def render (grid : Grid) : String :=
  String.join (grid.lines.map (· ++ "\n"))

end Grid

end CounterTables.Layout
