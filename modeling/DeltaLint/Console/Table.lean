import DeltaLint.Console.Basic

/-!
# Tables on the console

A table without lines: a title, a heading over each column, and rows of cells.
A column is as wide as its widest cell and has two blanks on both sides; every
line, also that of the title, is filled up to the width of the table.
-/

namespace DeltaLint
namespace Console

/-- A column of markup texts under its heading. -/
structure Column where
  heading : String
  cells : List String
  deriving Repr

namespace Table

/-- Blanks on each side of a column. -/
def gap : Nat := 2

/-- The lines of a cell. -/
def cellLines (width : Nat) (cell : String) : Except Failure (List (List Char)) :=
  match Markup.plainText cell.toList with
  | .ok s => .ok (wrap width s)
  | .error e => .error (.badMarkup e.message)

/-- The cells of a column by lines, its heading first. -/
def columnLines (width : Nat) (c : Column) : Except Failure (List (List (List Char))) :=
  (c.heading :: c.cells).mapM (cellLines width)

/-- The columns that the widest line of some cells takes. -/
def widest (cells : List (List (List Char))) : Nat :=
  (cells.flatten.map Text.width).foldl max 0

/-- A line filled up to a width. -/
def fill (width : Nat) (s : List Char) : List Char :=
  s ++ blanks (width - Text.width s)

/-- A line of a cell with the blanks around it; a cell that has no such line is blank. -/
def cellLine (width n : Nat) (cell : List (List Char)) : List Char :=
  blanks gap ++ fill width (cell[n]?.getD []) ++ blanks gap

/-- The lines of a row, each column given by its width and its cell. -/
def rowLines (row : List (Nat × List (List Char))) : List (List Char) :=
  let height := (row.map fun (_, cell) => cell.length).foldl max 1
  (List.range height).map fun n => row.flatMap fun (width, cell) => cellLine width n cell

/-- The rows of a table from its columns. -/
def rows (columns : List (Nat × List (List (List Char)))) (count : Nat) :
    List (List (Nat × List (List Char))) :=
  (List.range count).map fun n => columns.map fun (width, cells) => (width, cells[n]?.getD [])

end Table

/-- Prints a table. All columns have the same number of cells. -/
def printTable (width : Nat) (title : String) (columns : List Column) : Except Failure String := do
  let cells ← columns.mapM (Table.columnLines width)
  let measured := cells.map fun c => (Table.widest c, c)
  let total := measured.foldl (fun n (w, _) => n + w + 2 * Table.gap) 0
  let count := (cells.map List.length).foldl max 0
  let title := (wrap total title.toList).map (Table.fill total)
  let body := (Table.rows measured count).flatMap Table.rowLines
  return String.ofList ((title ++ body).flatMap fun line => line ++ ['\n'])

end Console
end DeltaLint
