import KubectlMatch.Text.Width
/-!
# Tables in a frame

A table is a head and rows of cells, drawn with box characters, one column of blanks on either
side of each cell and a rule below the head.  A cell may have several lines; its row is then as
high as its highest cell.
-/
namespace KubectlMatch.Text

/-- The lines of a cell.  An empty cell is one empty line. -/
def cellLines (cell : List Char) : List (List Char) := cell.splitOn '\n'

/-- The columns that the widest line of a cell takes. -/
def cellWidth (cell : List Char) : Nat := ((cellLines cell).map width).foldl max 0

/-- The width of each column: that of its widest cell. -/
def columnWidths (head : List (List Char)) (rows : List (List (List Char))) : List Nat :=
  rows.foldl (fun widths row => List.zipWith max widths (row.map cellWidth)) (head.map cellWidth)

/-- A line of a cell between blanks, filled up to the column's width. -/
def field (columns : Nat) (line : List Char) : List Char :=
  ' ' :: line ++ List.replicate (columns - width line) ' ' ++ [' ']

def rowLine (widths : List Nat) (lines : List (List Char)) : List Char :=
  '│' :: ['│'].intercalate (List.zipWith field widths lines) ++ ['│']

def rowLines (widths : List Nat) (cells : List (List Char)) : List (List Char) :=
  let cells := cells.map cellLines
  let height := (cells.map List.length).foldl max 0
  (List.range height).map fun i => rowLine widths (cells.map fun lines => lines.getD i [])

/-- A horizontal rule, from its left end over its crossings to its right end. -/
def rule (left crossing right : Char) (widths : List Nat) : List Char :=
  left :: [crossing].intercalate (widths.map fun n => List.replicate (n + 2) '─') ++ [right]

def tableLines (head : List (List Char)) (rows : List (List (List Char))) : List (List Char) :=
  let widths := columnWidths head rows
  rule '┌' '┬' '┐' widths :: rowLines widths head ++
    rule '├' '┼' '┤' widths :: rows.flatMap (rowLines widths) ++ [rule '└' '┴' '┘' widths]

/-- The framed table, without a line end behind it. -/
def table (head : List (List Char)) (rows : List (List (List Char))) : List Char :=
  ['\n'].intercalate (tableLines head rows)

end KubectlMatch.Text
