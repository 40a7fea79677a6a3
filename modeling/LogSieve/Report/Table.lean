import LogSieve.Text.Width

/-! Tables in boxes. A column is as wide as its widest line; a cell of several lines makes its row as
high. -/

namespace LogSieve.Report

/-- A rule across the table: its left end, what it is drawn with, its crossings, its right end. -/
structure Rule where
  left : Char
  line : Char
  crossing : Char
  right : Char

def topRule : Rule := { left := '┌', line := '─', crossing := '┬', right := '┐' }
def headRule : Rule := { left := '╞', line := '═', crossing := '╪', right := '╡' }
def rowRule : Rule := { left := '├', line := '╌', crossing := '┼', right := '┤' }
def bottomRule : Rule := { left := '└', line := '─', crossing := '┴', right := '┘' }

abbrev Line := List Char

def cellLines (cell : String) : List Line := cell.toList.splitOn '\n'

structure Row where
  cells : List (List Line)

namespace Row

def ofTexts (cells : List String) : Row := { cells := cells.map cellLines }

def height (row : Row) : Nat := (row.cells.map List.length).foldl max 0

def widths (row : Row) : List Nat := row.cells.map fun lines => (lines.map Text.width).foldl max 0

end Row

def padLine (width : Nat) (line : Line) : Line :=
  line ++ List.replicate (width - Text.width line) ' '

def columnWidths (rows : List Row) : List Nat :=
  match rows with
  | [] => []
  | row :: rows => rows.foldl (fun widths row => List.zipWith max widths row.widths) row.widths

def ruleLine (rule : Rule) (widths : List Nat) : Line :=
  rule.left :: [rule.crossing].intercalate (widths.map fun width => List.replicate (width + 2) rule.line) ++
    [rule.right]

/-- One line of a row. A cell with fewer lines is blank there. -/
def textLine (widths : List Nat) (row : Row) (index : Nat) : Line :=
  let cells := List.zipWith
    (fun width lines => ' ' :: padLine width ((lines[index]?).getD []) ++ [' ']) widths row.cells
  '│' :: ['┆'].intercalate cells ++ ['│']

def rowLines (widths : List Nat) (row : Row) : List Line :=
  (List.range row.height).map (textLine widths row)

/-- The lines of all rows with a rule between every two. -/
def bodyLines (widths : List Nat) : List Row → List Line
  | [] => []
  | [row] => rowLines widths row
  | row :: rows => rowLines widths row ++ ruleLine rowRule widths :: bodyLines widths rows

def table (header : List String) (rows : List (List String)) : String :=
  let head := Row.ofTexts header
  let body := rows.map Row.ofTexts
  let widths := columnWidths (head :: body)
  let lines := ruleLine topRule widths :: rowLines widths head ++ ruleLine headRule widths ::
    bodyLines widths body ++ [ruleLine bottomRule widths]
  "\n".intercalate (lines.map String.ofList)

end LogSieve.Report
