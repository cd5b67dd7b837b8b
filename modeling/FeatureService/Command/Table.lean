import FeatureService.Text.Columns

/-!
# Tables

A table in a frame of plus signs, dashes and bars. Each column is as wide as its
widest cell, and cells are aligned to the left. A cell may have several lines.
-/

namespace FeatureService.Table

def lines (cell : String) : List (List Char) :=
  cell.toList.splitOn '\n'

def width (cell : String) : Nat :=
  ((lines cell).map Text.columns).foldl max 0

def widths : List (List String) → List Nat
  | [] => []
  | [row] => row.map width
  | row :: rest => List.zipWith max (row.map width) (widths rest)

def border (widths : List Nat) : List Char :=
  '+' :: widths.flatMap fun width => List.replicate (width + 2) '-' ++ ['+']

/-- A line of a cell, filled up to a width. -/
def padded (width : Nat) (line : List Char) : List Char :=
  ' ' :: line ++ List.replicate (width - Text.columns line) ' ' ++ [' ', '|']

def rowLine (widths : List Nat) (cells : List (List (List Char))) (number : Nat) : List Char :=
  let fill (width : Nat) (cell : List (List Char)) := padded width (cell[number]?.getD [])
  '|' :: (List.zipWith fill widths cells).flatten

def rowLines (widths : List Nat) (row : List String) : List (List Char) :=
  let cells := row.map lines
  let height := (cells.map List.length).foldl max 0
  (List.range height).map (rowLine widths cells)

def tableLines (rows : List (List String)) : List (List Char) :=
  let widths := widths rows
  border widths :: rows.flatMap fun row => rowLines widths row ++ [border widths]

/-- A table of rows, without a line break at the end. -/
def render (rows : List (List String)) : String :=
  String.intercalate "\n" ((tableLines rows).map String.ofList)

end FeatureService.Table
