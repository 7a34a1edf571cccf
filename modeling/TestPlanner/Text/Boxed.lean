import TestPlanner.Text.Width
import TestPlanner.Text.Blank

/-!
# Boxed tables

A table in a box of line-drawing characters: a header, a double line, and rows with dashed lines
between them. Every column is as wide as its widest cell, with a space on either side. A cell may
have several lines.
-/

set_option autoImplicit false

namespace TestPlanner.Text.Boxed

/-- The lines of a cell. -/
def cellLines (cell : String) : List (List Char) := cell.toList.splitOnP (· == '\n')

/-- The columns a cell takes. -/
def cellWidth (cell : String) : Nat := ((cellLines cell).map displayWidth).foldl max 0

/-- The widths of the columns of rows, each at least one. -/
def columnWidths : List (List String) → List Nat
  | [] => []
  | [row] => row.map fun cell => max 1 (cellWidth cell)
  | row :: rows =>
    List.zipWith (fun cell width => max (cellWidth cell) width) row (columnWidths rows)

/-- A line across the table. -/
def rule (left fill cross right : Char) (widths : List Nat) : List Char :=
  left :: (joinWith [cross] (widths.map fun w => List.replicate (w + 2) fill) ++ [right])

/-- A line of a cell, filled up to its column's width. -/
def padded (width : Nat) (line : List Char) : List Char :=
  ' ' :: (line ++ List.replicate (width - displayWidth line) ' ' ++ [' '])

/-- The lines of a row. -/
def rowLines (widths : List Nat) (row : List String) : List (List Char) :=
  let cells := row.map cellLines
  let height := (cells.map List.length).foldl max 1
  (List.range height).map fun i =>
    '│' :: (joinWith ['┆'] (List.zipWith (fun w c => padded w (c.getD i [])) widths cells) ++ ['│'])

/-- Rows with dashed lines between them. -/
def bodyLines (widths : List Nat) : List (List String) → List (List Char)
  | [] => []
  | [row] => rowLines widths row
  | row :: rows => rowLines widths row ++ rule '├' '╌' '┼' '┤' widths :: bodyLines widths rows

/-- A table with a header. -/
def table (header : List String) (rows : List (List String)) : String :=
  let widths := columnWidths (header :: rows)
  let lines := rule '┌' '─' '┬' '┐' widths :: rowLines widths header ++
    rule '╞' '═' '╪' '╡' widths :: bodyLines widths rows ++ [rule '└' '─' '┴' '┘' widths]
  String.ofList (joinWith ['\n'] lines)

end TestPlanner.Text.Boxed
