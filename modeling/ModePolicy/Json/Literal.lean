import ModePolicy.Json.Basic
import ModePolicy.Number.ShortestDecimal
import ModePolicy.Text.Quoted

/-!
Values as messages show them.

`literal` quotes texts; `plain` shows a text as it is and everything else as `literal` does, so that
items inside a list or an object are always quoted.
-/

namespace ModePolicy.Json

/-- The pieces with a separator between them. -/
def joinWith (sep : List Char) : List (List Char) → List Char
  | [] => []
  | [p] => p
  | p :: ps => p ++ sep ++ joinWith sep ps

/-- An integer in decimal. -/
def intText (n : Int) : List Char :=
  if n < 0 then '-' :: Nat.toDigits 10 n.natAbs else Nat.toDigits 10 n.natAbs

mutual

/-- A value with its texts quoted. -/
def literalChars : Json → List Char
  | .null => ['N', 'o', 'n', 'e']
  | .bool true => ['T', 'r', 'u', 'e']
  | .bool false => ['F', 'a', 'l', 's', 'e']
  | .int n => intText n
  | .float x => x.textWith ['n', 'a', 'n'] ['i', 'n', 'f']
  | .str s => Text.quotedChars s.toList
  | .arr items => '[' :: (joinWith [',', ' '] (literalItems items) ++ [']'])
  | .obj fields => '\x7b' :: (joinWith [',', ' '] (literalFields fields) ++ ['\x7d'])

/-- The items of a list, each with its texts quoted. -/
def literalItems : List Json → List (List Char)
  | [] => []
  | x :: xs => literalChars x :: literalItems xs

/-- The fields of an object, names and texts quoted. -/
def literalFields : List (String × Json) → List (List Char)
  | [] => []
  | (name, x) :: xs =>
    (Text.quotedChars name.toList ++ ':' :: ' ' :: literalChars x) :: literalFields xs

end

/-- A value with its texts quoted. -/
def literal (value : Json) : String := String.ofList value.literalChars

/-- A text as it is, any other value with its texts quoted. -/
def plain : Json → String
  | .str s => s
  | value => value.literal

/-- The name of a field that a key makes. -/
def keyText : Json → String
  | .str s => s
  | .null => "null"
  | .bool b => if b then "true" else "false"
  | value => value.literal

end ModePolicy.Json
