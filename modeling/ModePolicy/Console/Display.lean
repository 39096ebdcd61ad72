import ModePolicy.Console.Markup
import ModePolicy.Console.Wrap
import ModePolicy.Text.Lines

/-!
What a console shows of a text: its lines, with tabs as spaces and without characters that would
move the cursor, broken where they are wider than the console.
-/

namespace ModePolicy.Console

/-- The cells of a line of the console. -/
def consoleWidth : Nat := 10000

/-- A character that a console leaves out: bell, backspace, vertical tab, form feed, carriage
return. -/
def isLeftOut (c : Char) : Bool := [7, 8, 11, 12, 13].contains c.toNat

/-- The distance of tab stops. -/
def tabSize : Nat := 8

/-- The spaces from a cell to the next tab stop. -/
def spacesToStop (cell : Nat) : Nat := tabSize - cell % tabSize

/-- A line with its tabs as spaces, given the cell that it starts at. -/
def expandTabs (cell : Nat) : List Char → List Char
  | [] => []
  | c :: rest =>
    if c == '\t' then
      List.replicate (spacesToStop cell) ' ' ++ expandTabs (cell + spacesToStop cell) rest
    else c :: expandTabs (cell + Text.cellWidth c) rest

/-- The characters of a text that are not left out. -/
def clean (cs : List Char) : List Char := cs.filter (!isLeftOut ·)

/-- The lines that a width has room for, of a text from which nothing is left out any more. -/
def layOut (overflow : Overflow) (width : Nat) (cs : List Char) : List String :=
  (Text.splitAtChar '\n' cs).flatMap fun line =>
    (wrap overflow width (expandTabs 0 line)).map String.ofList

/-- The lines that a console shows of characters. -/
def displayChars (cs : List Char) : List String := layOut .fold consoleWidth (clean cs)

/-- The lines that a console shows of a text. -/
def display (s : String) : List String := displayChars s.toList

/-- The lines that a console shows of markup. -/
def displayMarkup (markup : String) : Except Markup.StrayTag (List String) :=
  displayChars <$> Markup.plain? markup

end ModePolicy.Console
