import PatchReview.Unicode.Width

/-!
# Tables

A table is drawn with box characters around its cells.  A cell may have several
lines; each column is as wide as its widest line, with a space on either side.
-/

namespace PatchReview.Cli

/-- A cell: its lines. -/
abbrev Cell := List String

/-- A cell with the lines of a text. -/
def Cell.ofText (text : String) : Cell :=
  (Text.fields (· == '\n') text.toList).map String.ofList

/-- The characters of a horizontal line: ends, crossings and what is between them. -/
structure Rule where
  left : Char
  middle : Char
  right : Char
  fill : Char

/-- The line above a table. -/
def topRule : Rule := ⟨'┌', '┬', '┐', '─'⟩

/-- The line below the header. -/
def headerRule : Rule := ⟨'╞', '╪', '╡', '═'⟩

/-- The line between two rows. -/
def rowRule : Rule := ⟨'├', '┼', '┤', '╌'⟩

/-- The line below a table. -/
def bottomRule : Rule := ⟨'└', '┴', '┘', '─'⟩

/-- The columns that a line of a cell takes. -/
def lineWidth (line : String) : Nat :=
  Unicode.width line.toList

/-- The columns that a cell takes. -/
def cellWidth (cell : Cell) : Nat :=
  cell.foldl (fun w line => max w (lineWidth line)) 0

/-- The widths of the columns of some rows. -/
def columnWidths (rows : List (List Cell)) : List Nat :=
  rows.foldl (fun widths row =>
    let cells := row.map cellWidth
    (List.zipWith max widths cells) ++ cells.drop widths.length) []

/-- A horizontal line. -/
def Rule.draw (r : Rule) (widths : List Nat) : String :=
  String.singleton r.left
    ++ (String.singleton r.middle).intercalate
        (widths.map fun w => String.ofList (List.replicate (w + 2) r.fill))
    ++ String.singleton r.right

/-- A line of a cell, filled up to the width of its column. -/
def padded (line : String) (w : Nat) : String :=
  " " ++ line ++ String.ofList (List.replicate (w - lineWidth line) ' ') ++ " "

/-- The lines of a row: as many as its highest cell has. -/
def drawRow (widths : List Nat) (row : List Cell) : List String :=
  let height := row.foldl (fun h cell => max h cell.length) 1
  (List.range height).map fun i =>
    "│" ++ "┆".intercalate ((row.zip widths).map fun (cell, w) => padded (cell.getD i "") w) ++ "│"

/-- The lines of rows with a line between each two of them. -/
def drawRows (widths : List Nat) : List (List Cell) → List String
  | [] => []
  | [row] => drawRow widths row
  | row :: rest => drawRow widths row ++ rowRule.draw widths :: drawRows widths rest

/-- A table with a header. -/
def drawTable (header : List Cell) (rows : List (List Cell)) : String :=
  let widths := columnWidths (header :: rows)
  "\n".intercalate (
    topRule.draw widths :: drawRow widths header
    ++ headerRule.draw widths :: drawRows widths rows
    ++ [bottomRule.draw widths])

end PatchReview.Cli
