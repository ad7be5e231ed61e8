import Stencil.Text.Width

/-!
# Tables

Tables of texts in a frame with rounded corners. A column is as wide as its widest line; a cell has
as many lines as its text, with a blank on both sides.
-/

namespace Stencil

/-- Where the texts of a header stand. -/
inductive HeaderAlignment where
  | left
  /-- In the middle, an odd blank to the right. -/
  | center
  deriving DecidableEq, Repr

/-- Texts in columns under a header. -/
structure Table where
  header : List String
  rows : List (List String)
  alignment : HeaderAlignment := .center

namespace Table

/-- The lines of a text. -/
def cellLines (text : String) : List String := text.splitOn "\n"

/-- The columns a line takes. -/
def lineWidth (line : String) : Nat := Text.displayWidth line.toList

/-- The width of the widest line of a text. -/
def cellWidth (text : String) : Nat := ((cellLines text).map lineWidth).foldl max 0

/-- The widths of the columns. -/
def widths (t : Table) : List Nat :=
  t.rows.foldl (fun widths row => List.zipWith max widths (row.map cellWidth))
    (t.header.map cellWidth)

/-- A character a number of times. -/
def fill (n : Nat) (c : Char) : String := String.ofList (List.replicate n c)

/-- A line of a cell with the blanks around it. -/
def pad (alignment : HeaderAlignment) (width : Nat) (line : String) : String :=
  let free := width - lineWidth line
  let before := match alignment with
    | .left => 0
    | .center => free / 2
  " " ++ fill before ' ' ++ line ++ fill (free - before) ' ' ++ " "

/-- A horizontal line of the frame. -/
def rule (left cross right : String) (widths : List Nat) : String :=
  left ++ cross.intercalate (widths.map fun w => fill (w + 2) '─') ++ right

/-- The lines of a row; a cell with fewer lines than another ends with empty ones. -/
def rowLines (alignment : HeaderAlignment) (widths : List Nat) (row : List String) :
    List String :=
  let cells := row.map cellLines
  let height := (cells.map List.length).foldl max 0
  (List.range height).map fun i =>
    "│" ++ "│".intercalate (List.zipWith (fun w c => pad alignment w (c.getD i "")) widths cells)
      ++ "│"

/-- The whole table, its lines joined by line breaks. -/
def render (t : Table) : String :=
  let widths := t.widths
  "\n".intercalate
    (rule "╭" "┬" "╮" widths :: rowLines t.alignment widths t.header
      ++ rule "├" "┼" "┤" widths :: t.rows.flatMap (rowLines .left widths)
      ++ [rule "╰" "┴" "╯" widths])

end Table

end Stencil
