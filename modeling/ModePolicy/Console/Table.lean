import ModePolicy.Console.Display

/-!
Tables on a console.

A column is as wide as its widest cell is measured to be, and cells that are shown wider than that,
because of their tabs or of line ends that are not shown as such, are wrapped. A row has as many
lines as its highest cell.
-/

namespace ModePolicy.Console

/-- A character that ends a line where texts are measured. -/
def isLineEnd (c : Char) : Bool :=
  [0x0A, 0x0B, 0x0C, 0x0D, 0x1C, 0x1D, 0x1E, 0x85, 0x2028, 0x2029].contains c.toNat

/-- The cells of the widest line, given the cells of the line so far and the widest one before it;
tabs take none. -/
def measureFrom (cells widest : Nat) : List Char → Nat
  | [] => max cells widest
  | c :: rest =>
    if isLineEnd c then measureFrom 0 (max cells widest) rest
    else measureFrom (cells + Text.cellWidth c) widest rest

/-- The cells that a text is measured to take. -/
def measure (cs : List Char) : Nat := measureFrom 0 0 cs

/-- The cells left and right of the text in a column. -/
def columnPadding : Nat := 2

/-- The cells of a line that the columns can share: one before each column and one after the last
are taken by rules. -/
def sharedWidth (columns : Nat) : Nat := consoleWidth - (columns + 1)

/-- The widths of columns, of which the widest gives up what is too much. -/
def squeeze (shared : Nat) (widths : List Nat) : List Nat :=
  let excess := widths.foldl (· + ·) 0 - shared
  let widest := widths.foldl max 0
  widths.map fun width => if width == widest then width - excess else width

/-- The widths of the columns, padding included, of a table with these rows. -/
def columnWidths (columns : Nat) (rows : List (List (List Char))) : List Nat :=
  let shared := sharedWidth columns
  squeeze shared <| (List.range columns).map fun i =>
    min shared ((rows.map fun row => measure (row.getD i [])).foldl max 0 + columnPadding)

/-- Cells side by side, line by line; a cell with fewer lines is empty in the others. -/
def transpose (cells : List (List String)) : List (List String) :=
  let height := (cells.map (·.length)).foldl max 0
  (List.range height).map fun i => cells.map fun cell => cell.getD i ""

/-- The lines of a row, each with the text of every cell without white space at its ends. -/
def rowLines (widths : List Nat) (row : List (List Char)) : List (List String) :=
  transpose <| (row.zip widths).map fun (cell, width) =>
    (layOut .ellipsis (width - columnPadding) cell).map Text.strip

/-- The lines that a console shows of a table, given its rows of markup, the first of which is its
header. -/
def displayTable (header : List String) (rows : List (List String)) :
    Except Markup.StrayTag (List (List String)) := do
  let cells ← (header :: rows).mapM fun row => row.mapM fun cell => clean <$> Markup.plain? cell
  return cells.flatMap (rowLines (columnWidths header.length cells))

end ModePolicy.Console
