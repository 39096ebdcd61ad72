import ModePolicy.Json.Literal

/-!
JSON text, indented by two spaces.

A list or an object without members is written on one line; otherwise every member has a line of its
own. Characters below U+0020 are escaped, everything from U+007F on stands for itself.
-/

namespace ModePolicy.Json

/-- A character inside a JSON string. -/
def stringChar (c : Char) : List Char :=
  if c == Text.quotationMark || c == '\\' then ['\\', c]
  else if c == '\n' then ['\\', 'n']
  else if c == '\r' then ['\\', 'r']
  else if c == '\t' then ['\\', 't']
  else if c == '\x08' then ['\\', 'b']
  else if c == '\x0c' then ['\\', 'f']
  else if c.toNat < 0x20 then '\\' :: 'u' :: Text.hexDigits c.toNat 4
  else [c]

/-- A JSON string. -/
def stringText (cs : List Char) : List Char :=
  Text.quotationMark :: (cs.flatMap stringChar ++ [Text.quotationMark])

/-- A new line, indented by a number of levels. -/
def newLine (level : Nat) : List Char := '\n' :: List.replicate (2 * level) ' '

/-- Members in brackets, each on a line of its own. -/
def block (opening closing : Char) (level : Nat) (members : List (List Char)) : List Char :=
  if members.isEmpty then [opening, closing]
  else
    opening :: (newLine (level + 1) ++ joinWith (',' :: newLine (level + 1)) members
      ++ newLine level ++ [closing])

mutual

/-- A value as text, given the level at which it stands. -/
def render (level : Nat) : Json → List Char
  | .null => ['n', 'u', 'l', 'l']
  | .bool true => ['t', 'r', 'u', 'e']
  | .bool false => ['f', 'a', 'l', 's', 'e']
  | .int n => intText n
  | .float x => x.textWith ['N', 'a', 'N'] ['I', 'n', 'f', 'i', 'n', 'i', 't', 'y']
  | .str s => stringText s.toList
  | .arr items => block '[' ']' level (renderItems (level + 1) items)
  | .obj fields => block '\x7b' '\x7d' level (renderFields (level + 1) fields)

/-- The items of a list as text. -/
def renderItems (level : Nat) : List Json → List (List Char)
  | [] => []
  | x :: xs => render level x :: renderItems level xs

/-- The fields of an object as text. -/
def renderFields (level : Nat) : List (String × Json) → List (List Char)
  | [] => []
  | (name, x) :: xs =>
    (stringText name.toList ++ ':' :: ' ' :: render level x) :: renderFields level xs

end

/-- A value as indented JSON text. -/
def pretty (value : Json) : String := String.ofList (value.render 0)

end ModePolicy.Json
