import Pipework.Text.Width

namespace Pipework.Text.Table

abbrev Cell := List String

def cell (s : String) : Cell := (s.toList.splitOnP (· == '\n')).map String.ofList

def cellWidth (c : Cell) : Nat := (c.map width).foldl max 0

def columnWidths (rows : List (List Cell)) : List Nat :=
  rows.foldl (fun ws row => List.zipWith max ws (row.map cellWidth))
    ((rows.headD []).map fun _ => 0)

def rule (left fill cross right : Char) (widths : List Nat) : String :=
  let spans := widths.map fun w => String.ofList (List.replicate (w + 2) fill)
  left.toString ++ cross.toString.intercalate spans ++ right.toString

/-- A line of a cell, filled up to the width of its column, with a space on either side. -/
def field (w : Nat) (line : String) : String :=
  " " ++ line ++ String.ofList (List.replicate (w - width line) ' ') ++ " "

def rowLines (widths : List Nat) (row : List Cell) : List String :=
  let height := (row.map List.length).foldl max 0
  (List.range height).map fun i =>
    "│" ++ "┆".intercalate (List.zipWith (fun w c => field w (c.getD i "")) widths row) ++ "│"

def lines (header : List String) (rows : List (List String)) : List String :=
  let head := header.map cell
  let body := rows.map (·.map cell)
  let widths := columnWidths (head :: body)
  let between := [rule '├' '╌' '┼' '┤' widths]
  [rule '┌' '─' '┬' '┐' widths] ++ rowLines widths head ++ [rule '╞' '═' '╪' '╡' widths] ++
    between.intercalate (body.map (rowLines widths)) ++ [rule '└' '─' '┴' '┘' widths]

def render (header : List String) (rows : List (List String)) : String :=
  "\n".intercalate (lines header rows)

end Pipework.Text.Table
