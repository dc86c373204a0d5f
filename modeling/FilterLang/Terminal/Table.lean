import FilterLang.Terminal.Width

/-!
# Tables

Tables in boxes with round corners. A cell may have several lines, and the lines of the cells of a
row stand side by side. Every column is as wide as its widest line, and no line is broken.
-/

namespace FilterLang.Terminal

/-! ### Cells and columns -/

/-- A cell: its lines. -/
abbrev Cell := List (List Char)

/-- The cell with the lines of a text. -/
def cellOf (text : String) : Cell := text.toList.splitOn '\n'

/-- The columns that a cell takes on the screen. -/
def cellWidth (c : Cell) : Nat := (c.map width).foldl max 0

/-- The widths of the columns of a table. Every row has a cell for every column of the header. -/
def columnWidths (header : List Cell) (rows : List (List Cell)) : List Nat :=
  rows.foldl (fun widths row ↦ List.zipWith (fun w c ↦ max w (cellWidth c)) widths row)
    (header.map cellWidth)

/-! ### Rows -/

/-- A line of a cell with a blank on either side, filled up to its column. -/
def padded (columns : Nat) (line : List Char) : List Char :=
  ' ' :: (line ++ List.replicate (columns - width line) ' ' ++ [' '])

/-- One line of a row. -/
def rowLine (widths : List Nat) (lines : List (List Char)) : List Char :=
  '│' :: (List.intercalate ['┆'] (List.zipWith padded widths lines) ++ ['│'])

/-- The lines of a row, as many as its highest cell has. -/
def rowLines (widths : List Nat) (row : List Cell) : List (List Char) :=
  (List.range ((row.map List.length).foldl max 0)).map fun i ↦
    rowLine widths (row.map fun c ↦ c.getD i [])

/-! ### Rules between rows -/

/-- The signs of a horizontal rule. -/
structure Rule where
  left : Char
  stroke : Char
  crossing : Char
  right : Char
  deriving Repr, DecidableEq

/-- The rule above the header. -/
def topRule : Rule := ⟨'╭', '─', '┬', '╮'⟩

/-- The rule below the header. -/
def headerRule : Rule := ⟨'╞', '═', '╪', '╡'⟩

/-- The rule between two rows. -/
def innerRule : Rule := ⟨'├', '╌', '┼', '┤'⟩

/-- The rule below the last row. -/
def bottomRule : Rule := ⟨'╰', '─', '┴', '╯'⟩

/-- The line of a rule. -/
def Rule.line (r : Rule) (widths : List Nat) : List Char :=
  r.left :: (List.intercalate [r.crossing] (widths.map fun w ↦ List.replicate (w + 2) r.stroke) ++
    [r.right])

/-! ### Tables -/

/-- The lines of a table. -/
def tableLines (header : List Cell) (rows : List (List Cell)) : List (List Char) :=
  let widths := columnWidths header rows
  let body := List.intercalate [innerRule.line widths] (rows.map (rowLines widths))
  [topRule.line widths] ++ rowLines widths header ++ [headerRule.line widths] ++ body ++
    [bottomRule.line widths]

/-- The text of a table, with a line feed at its end. -/
def tableText (header : List String) (rows : List (List String)) : String :=
  String.ofList ((tableLines (header.map cellOf) (rows.map (·.map cellOf))).flatMap (· ++ ['\n']))

end FilterLang.Terminal
