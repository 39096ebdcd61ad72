import ModePolicy.Text.Hex
import ModePolicy.Text.Printable

/-!
Texts quoted inside messages.

A text stands between apostrophes, or between quotation marks when it holds an apostrophe and no
quotation mark. The enclosing mark and the backslash are escaped, line feed, carriage return and tab
have short escapes, and any other character that cannot be printed is spelled by its code in two,
four or eight hexadecimal digits.
-/

namespace ModePolicy.Text

/-- The apostrophe. -/
def apostrophe : Char := '\x27'

/-- The quotation mark. -/
def quotationMark : Char := '\x22'

/-- The mark that encloses a text. -/
def enclosingMark (cs : List Char) : Char :=
  if cs.contains apostrophe && !cs.contains quotationMark then quotationMark else apostrophe

/-- A character as it is written between two marks. -/
def quotedChar (mark c : Char) : List Char :=
  if c == mark || c == '\\' then ['\\', c]
  else if c == '\n' then ['\\', 'n']
  else if c == '\r' then ['\\', 'r']
  else if c == '\t' then ['\\', 't']
  else if isPrintable c.toNat then [c]
  else if c.toNat < 0x100 then '\\' :: 'x' :: hexDigits c.toNat 2
  else if c.toNat < 0x10000 then '\\' :: 'u' :: hexDigits c.toNat 4
  else '\\' :: 'U' :: hexDigits c.toNat 8

/-- A text between marks, with escapes. -/
def quotedChars (cs : List Char) : List Char :=
  let mark := enclosingMark cs
  mark :: (cs.flatMap (quotedChar mark) ++ [mark])

/-- A text between marks, with escapes. -/
def quoted (s : String) : String := String.ofList (quotedChars s.toList)

end ModePolicy.Text
