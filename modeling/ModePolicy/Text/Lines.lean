/-!
Line ends: their normal form, and the lines of a text.
-/

namespace ModePolicy.Text

/-- Every line end (`\r\n`, `\r` or `\n`) as one line feed. -/
def normalizeLineEnds : List Char → List Char
  | [] => []
  | '\r' :: '\n' :: rest => '\n' :: normalizeLineEnds rest
  | '\r' :: rest => '\n' :: normalizeLineEnds rest
  | c :: rest => c :: normalizeLineEnds rest

/-- The pieces between the occurrences of a separator: one more than there are separators. -/
def splitAtChar (sep : Char) : List Char → List (List Char)
  | [] => [[]]
  | c :: rest =>
    if c == sep then [] :: splitAtChar sep rest
    else
      match splitAtChar sep rest with
      | [] => [[c]]
      | piece :: pieces => (c :: piece) :: pieces

/-- The lines of a text, without their line feeds. -/
def lines (s : String) : List String := (splitAtChar '\n' s.toList).map String.ofList

/-- A place in a text, both counts from one. -/
structure Place where
  line : Nat
  column : Nat
  deriving DecidableEq, Repr

/-- The place reached after these characters. -/
def Place.after (cs : List Char) : Place :=
  ⟨cs.count '\n' + 1, (cs.reverse.takeWhile (· != '\n')).length + 1⟩

end ModePolicy.Text
