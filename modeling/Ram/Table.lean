import Ram.Text.Escape

/-!
# Tables of text

A table has a row of titles and any number of rows below it.  A cell holds lines
of text and says on which side of its column they stand.

The width of a column is that of the widest line in it, titles included.  A row is
as high as its highest cell and at least one line.  A cell with fewer lines than
its row leaves the rest blank.  A bar divides the columns and one space pads each
of them on both sides.  A rule follows the titles and another one follows the last
row, and both are there when the table has no rows.  Every line starts and ends
with a space and ends in a newline, so the text of a table can be the content of a
cell of another table.
-/

namespace Ram

/-- The side of its column on which a cell stands. -/
inductive Side where
  /-- At the left end of the column. -/
  | left
  /-- At the right end of the column. -/
  | right
deriving DecidableEq, Repr

/-- A cell of a table. -/
structure Cell where
  /-- The lines of the cell, the first on top. -/
  lines : List String
  /-- The side of the column on which every line stands. -/
  side : Side := .left
deriving DecidableEq, Repr

/-- A table: its titles and its rows. -/
structure Table where
  /-- The titles of the columns. -/
  titles : List Cell
  /-- The rows below the titles. -/
  rows : List (List Cell)
deriving DecidableEq, Repr

namespace Cell

/-- A line of text that a newline ended, without the carriage return before it. -/
def dropReturn (line : List Char) : List Char :=
  if line.getLast? = some '\r' then line.dropLast else line

/-- The lines of a text.  A newline ends a line, and a carriage return before it
belongs to it.  The text after the last newline is a line if it is not empty. -/
def linesOf (text : String) : List String :=
  let pieces := text.toList.splitOn '\n'
  let ended := pieces.dropLast.map dropReturn
  let rest := pieces.getLastD []
  (if rest = [] then ended else ended ++ [rest]).map String.ofList

/-- A cell at the left that holds the lines of a text. -/
def left (text : String) : Cell := ⟨linesOf text, .left⟩

/-- A cell at the right that holds the lines of a text. -/
def right (text : String) : Cell := ⟨linesOf text, .right⟩

/-- The width of the widest line. -/
def width (cell : Cell) : Nat := (cell.lines.map Text.shownWidth).foldl max 0

/-- The number of lines. -/
def height (cell : Cell) : Nat := cell.lines.length

/-- One line of the cell, padded to the width of its column.  A line below the
last one is blank. -/
def lineAt (cell : Cell) (columnWidth index : Nat) : String :=
  let line := cell.lines.getD index ""
  let padding := String.ofList (List.replicate (columnWidth - Text.shownWidth line) ' ')
  match cell.side with
  | .left => line ++ padding
  | .right => padding ++ line

end Cell

namespace Table

/-- The width of the column with the given index. -/
def columnWidth (table : Table) (index : Nat) : Nat :=
  ((table.titles :: table.rows).map fun row => ((row[index]?).map Cell.width).getD 0).foldl max 0

/-- The widths of the columns, from the left. -/
def columnWidths (table : Table) : List Nat :=
  (List.range table.titles.length).map table.columnWidth

/-- The text of a row in columns of the given widths. -/
def rowText (widths : List Nat) (row : List Cell) : String :=
  let height := (row.map Cell.height).foldl max 1
  String.join ((List.range height).map fun index =>
    let columns := row.zipWith (fun cell width => " " ++ cell.lineAt width index ++ " ") widths
    " " ++ "│".intercalate columns ++ " \n")

/-- A rule across columns of the given widths, with a mark where it meets the bar
between two columns. -/
def rule (widths : List Nat) (crossing : String) : String :=
  let dashes := widths.map fun width => String.join (List.replicate (width + 2) "─")
  " " ++ crossing.intercalate dashes ++ " \n"

/-- The text of a table. -/
def text (table : Table) : String :=
  let widths := table.columnWidths
  rowText widths table.titles ++ rule widths "┼"
    ++ String.join (table.rows.map (rowText widths)) ++ rule widths "┴"

end Table

end Ram
