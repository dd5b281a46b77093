import Anchormark.Node.Basic
import Anchormark.Text.Lines

/-!
# Table Layout

A table is written with its columns lined up. The first row is the header, and the delimiter row
below it shows how each column is aligned. A column is as wide as its widest cell, counted in
characters, and never narrower than its delimiter cell needs: one dash, and one more character
for each colon.

Rows that are too short, and alignments that are missing, are filled up.

## Main definitions

* `Table.layout`: the lines of a table, joined.
-/

namespace Anchormark.Table

/-- Blanks, as many as given. -/
def blanks (n : Nat) : List Char :=
  List.replicate n ' '

/-- The alignment of a column; the columns beyond the list have none. -/
def alignmentOf (align : List Alignment) (column : Nat) : Alignment :=
  align[column]?.getD .unset

/-- What the delimiter cell of a column takes at least. -/
def minWidth : Alignment → Nat
  | .unset => 1
  | .left | .right => 2
  | .center => 3

/-- The number of columns: of the longest row or of the alignments, whichever is larger. -/
def columnCount (rows : List (List (List Char))) (align : List Alignment) : Nat :=
  rows.foldl (fun n row => max n row.length) align.length

/-- The width of a column. -/
def width (rows : List (List (List Char))) (align : List Alignment) (column : Nat) : Nat :=
  rows.foldl (fun n row => max n ((row[column]?.map List.length).getD 0))
    (minWidth (alignmentOf align column))

/-- A cell filled up to the width of its column. -/
def pad (cell : List Char) (width : Nat) (a : Alignment) : List Char :=
  let fill := width - cell.length
  match a with
  | .right => blanks fill ++ cell
  | .center => blanks (fill / 2) ++ cell ++ blanks (fill - fill / 2)
  | .unset | .left => cell ++ blanks fill

/-- The delimiter cell of a column. -/
def delimiter (width : Nat) : Alignment → List Char
  | .unset => List.replicate width '-'
  | .left => ':' :: List.replicate (width - 1) '-'
  | .right => List.replicate (width - 1) '-' ++ [':']
  | .center => ':' :: List.replicate (width - 2) '-' ++ [':']

/-- Cells between pipes. -/
def line (cells : List (List Char)) : List Char :=
  ['|', ' '] ++ Text.joinWith [' ', '|', ' '] cells ++ [' ', '|']

/-- Lays out the rows, the first of which is the header. Without a row or a column there is
    nothing to write. -/
def layout (rows : List (List (List Char))) (align : List Alignment) : List Char :=
  let columns := List.range (columnCount rows align)
  let rowLine (row : List (List Char)) : List Char :=
    line (columns.map fun column =>
      pad (row[column]?.getD []) (width rows align column) (alignmentOf align column))
  let delimiterLine : List Char :=
    line (columns.map fun column => delimiter (width rows align column) (alignmentOf align column))
  match rows with
  | [] => []
  | header :: body =>
    if columns.isEmpty then []
    else Text.unlines (rowLine header :: delimiterLine :: body.map rowLine)

end Anchormark.Table
