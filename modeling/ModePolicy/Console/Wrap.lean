import ModePolicy.Text.Blank
import ModePolicy.Text.CellWidth

/-!
Breaking a line into lines that fit a width.

A line is a list of words, each with the white space after it, and it takes words as long as they
fit without the white space at its end. A word that is wider than a line is cut or left alone as the
`Overflow` says. White space beyond the width is dropped, and what is still too wide is cut.
-/

namespace ModePolicy.Console

/-- What becomes of text that is wider than a line. -/
inductive Overflow where
  | fold
  | ellipsis
  deriving DecidableEq, Repr

/-- A text cut wherever white space ends. -/
def cutAfterBlanks : List Char → List (List Char)
  | [] => []
  | c :: rest =>
    match cutAfterBlanks rest with
    | (d :: word) :: words =>
      if Text.isBlank c && !Text.isBlank d then [c] :: (d :: word) :: words
      else (c :: d :: word) :: words
    | words => [c] :: words

/-- The words of a line, each with the white space after it; the first one also has the white space
before it. -/
def words (line : List Char) : List (List Char) :=
  match cutAfterBlanks line with
  | first :: second :: rest =>
    if first.all Text.isBlank then (first ++ second) :: rest else first :: second :: rest
  | few => few

/-- The number of white-space characters at the end. -/
def blanksAtEnd (cs : List Char) : Nat := (cs.reverse.takeWhile Text.isBlank).length

/-- The cells that a word takes without the white space after it. -/
def wordWidth (word : List Char) : Nat :=
  Text.cellCount (word.take (word.length - blanksAtEnd word))

/-- A word in pieces that fit the width, given the first piece so far in reverse and its cells. -/
def chop (width cells : Nat) (piece : List Char) : List Char → List (List Char)
  | [] => [piece.reverse]
  | c :: rest =>
    if cells + Text.cellWidth c > width then
      piece.reverse :: chop width (Text.cellWidth c) [c] rest
    else chop width (cells + Text.cellWidth c) (c :: piece) rest

/-- The pieces of a word that does not fit the rest of a line: those that fill lines, and the one
that a line begins with. -/
def cutWord (overflow : Overflow) (width : Nat) (word : List Char) :
    List (List Char) × List Char :=
  if overflow == .fold && wordWidth word > width then
    let pieces := chop width 0 [] word
    (pieces.dropLast, pieces.getLast?.getD [])
  else ([], word)

/-- Words in lines, given the words of the first line so far in reverse and its cells. -/
def fill (overflow : Overflow) (width cells : Nat) (line : List (List Char)) :
    List (List Char) → List (List Char)
  | [] => [line.reverse.flatten]
  | word :: rest =>
    if cells + wordWidth word ≤ width then
      fill overflow width (cells + Text.cellCount word) (word :: line) rest
    else
      let (full, start) := cutWord overflow width word
      (if line.isEmpty then [] else [line.reverse.flatten]) ++ full
        ++ fill overflow width (Text.cellCount start) [start] rest

/-- A line without the white space at its end that makes it longer than the width. -/
def dropBlanksBeyond (width : Nat) (line : List Char) : List Char :=
  line.take (line.length - min (blanksAtEnd line) (line.length - width))

/-- The beginning of a text that takes `total` cells, looked for among those that end after the
character at `low` or later and before the one at `high`. A wide character that is cut becomes a
space. Of several beginnings that differ in characters without width, bisection picks one. -/
def beginningBetween (total : Nat) (cs : List Char) (low high : Nat) : List Char :=
  let middle := (low + high) / 2
  let beginning := cs.take (middle + 1)
  let cells := Text.cellCount beginning
  if cells == total + 1 && (beginning.getLast?.map Text.cellWidth) == some 2 then
    beginning.dropLast ++ [' ']
  else if _h : cells = total ∨ high ≤ low + 1 then beginning
  else if cells > total then beginningBetween total cs low middle
  else beginningBetween total cs middle high
termination_by high - low
decreasing_by all_goals omega

/-- The beginning of a text that takes `total` cells. -/
def beginning (total : Nat) (cs : List Char) : List Char :=
  if total == 0 then [] else beginningBetween total cs 0 cs.length

/-- A line that is no wider than the width. -/
def fitLine (overflow : Overflow) (width : Nat) (line : List Char) : List Char :=
  let line := dropBlanksBeyond width line
  if Text.cellCount line ≤ width then line
  else
    match overflow with
    | .fold => beginning width line
    | .ellipsis => beginning (width - 1) line ++ ['…']

/-- A line as lines that fit the width. -/
def wrap (overflow : Overflow) (width : Nat) (line : List Char) : List (List Char) :=
  (fill overflow width 0 [] (words line)).map (fitLine overflow width)

end ModePolicy.Console
