import ResourcePack.Text.Columns
import ResourcePack.Text.Lines

/-
  Tables for the terminal.

  Key definitions include:
    * `ResourcePack.Table.columnWidths`
    * `ResourcePack.Table.rowLines`
    * `ResourcePack.Table.lines`

  A table has a frame of box characters around it and a double line
  below its head, and nothing between its columns but space.  Cells
  are aligned to the left; each has a space on both sides, and
  columns are one more space apart.  A cell with line feeds takes
  several lines.
-/

------------------------------------------------------------
-- Widths
------------------------------------------------------------

namespace ResourcePack

namespace Table

/- The lines of a cell. -/
def cellLines
    (cell : String) : List String :=
  Text.splitOn '\n' cell

/- The columns that the widest line of a cell takes. -/
def cellWidth
    (cell : String) : Nat :=
  ((cellLines cell).map Text.columns).foldl max 0

/- The greater of two widths, column by column. -/
def widest : List Nat → List Nat → List Nat
  | [], ws => ws
  | ws, [] => ws
  | a :: as, b :: bs => max a b :: widest as bs

/- The width of every column of a list of rows. -/
def columnWidths
    (rows : List (List String)) : List Nat :=
  (rows.map fun row => row.map cellWidth).foldl widest []

end Table

end ResourcePack

------------------------------------------------------------
-- Lines
------------------------------------------------------------

namespace ResourcePack

namespace Table

/- A line of a cell with its spaces, filled up to a width. -/
def padded
    (width : Nat)
    (line : String) : String :=
  " " ++ line ++ Text.spaces (width - Text.columns line) ++ " "

/- One line of a row, made from the lines that its cells have there. -/
def frameLine
    (cells : List String) : String :=
  "│" ++ String.intercalate " " cells ++ "│"

/- The lines of a row. -/
def rowLines
    (widths : List Nat)
    (row : List String) : List String :=
  let cells := row.map cellLines
  let height := (cells.map List.length).foldl max 0
  (List.range height).map fun i =>
    frameLine ((widths.zip cells).map fun c => padded c.1 (c.2[i]?.getD ""))

/- A horizontal line of the frame. -/
def ruleLine
    (left fill right : String)
    (widths : List Nat) : String :=
  let length := widths.foldl (fun total w => total + w + 2) (widths.length - 1)
  left ++ String.join (List.replicate length fill) ++ right

/- The lines of a table with a head. -/
def lines
    (head : List String)
    (rows : List (List String)) : List String :=
  let widths := columnWidths (head :: rows)
  [ruleLine "┌" "─" "┐" widths] ++ rowLines widths head ++ [ruleLine "╞" "═" "╡" widths] ++
    rows.flatMap (rowLines widths) ++ [ruleLine "└" "─" "┘" widths]

end Table

end ResourcePack
