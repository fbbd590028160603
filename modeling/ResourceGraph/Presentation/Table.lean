/-
**Tables.**

A table has a header and rows of cells. A cell may have several lines. A column is as wide as its
widest line, a row as high as its highest cell; rules stand above, between and below all rows.
-/

import ResourceGraph.Text.Search
import ResourceGraph.Text.Width

namespace ResourceGraph

/-- A table of texts. -/
structure Table where
  header : List String
  rows : List (List String)
deriving DecidableEq, Repr

namespace Table

/-- The lines of a cell. -/
def lines (cell : String) : List String :=
  Text.pieces '\n' cell

/-- The columns that a cell takes. -/
def cellWidth (cell : String) : Nat :=
  ((lines cell).map Text.width).foldl max 0

/-- The header and the rows. -/
def allRows (table : Table) : List (List String) :=
  table.header :: table.rows

/-- The width of each column. -/
def columnWidths (table : Table) : List Nat :=
  table.header.zipIdx.map fun column =>
    (table.allRows.map fun row => cellWidth (row.getD column.2 "")).foldl max 0

/-- A number of blanks. -/
def blanks (count : Nat) : String :=
  String.ofList (List.replicate count ' ')

/-- The rule between rows. -/
def rule (widths : List Nat) : String :=
  "+" ++ String.join (widths.map fun width =>
    String.ofList (List.replicate (width + 2) '-') ++ "+")

/-- One line of a row: a line of each cell, filled up to the width of its column. -/
def rowLine (widths : List Nat) (row : List String) (line : Nat) : String :=
  "|" ++ String.join ((row.zip widths).map fun cell =>
    let text := (lines cell.1).getD line ""
    " " ++ text ++ blanks (cell.2 - Text.width text) ++ " |")

/-- The lines of a row. -/
def rowLines (widths : List Nat) (row : List String) : List String :=
  let height := (row.map fun cell => (lines cell).length).foldl max 0
  (List.range height).map (rowLine widths row)

/-- The text of a table, without a line break at its end. -/
def text (table : Table) : String :=
  let widths := table.columnWidths
  let body := table.allRows.flatMap fun row => rowLines widths row ++ [rule widths]
  Text.join "\n" (rule widths :: body)

end Table

end ResourceGraph
