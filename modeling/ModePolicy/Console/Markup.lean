import ModePolicy.Text.Blank

/-!
Markup: texts with tags such as `[bold]` and `[/bold]` for the console.

A tag is a bracket, then a small letter or one of `#`, `/` and `@`, then anything but an opening
bracket up to the first closing one. A backslash before a tag makes it text. `escape` protects a
text from being read as markup, and `plain?` is what markup looks like on a console without colours.
A tag that begins with `/` closes the last open tag of its name, and without a name the last open
tag; if there is none, the markup means nothing.
-/

namespace ModePolicy.Console.Markup

/-- A character that a tag begins with, after the bracket. -/
def isTagStart (c : Char) : Bool := ('a' ≤ c && c ≤ 'z') || c == '#' || c == '/' || c == '@'

/-- A closing bracket comes before any opening one. -/
def closes (cs : List Char) : Bool := (cs.find? fun c => c == '[' || c == ']') == some ']'

/-- A tag begins after the bracket that these characters follow. -/
def isTag : List Char → Bool
  | c :: rest => isTagStart c && closes rest
  | [] => false

/-- The characters begin with a tag, after any number of backslashes. -/
def leadsToTag (cs : List Char) : Bool :=
  match cs.dropWhile (· == '\\') with
  | '[' :: rest => isTag rest
  | _ => false

/-- Protects the tags in a text: their brackets get a backslash, and backslashes before them are
doubled. -/
def escapeTags : List Char → List Char
  | [] => []
  | c :: rest =>
    if c == '\\' && leadsToTag rest then '\\' :: '\\' :: escapeTags rest
    else if c == '[' && isTag rest then '\\' :: '[' :: escapeTags rest
    else c :: escapeTags rest

/-- A text whose last character is a single backslash. -/
def endsOpen (cs : List Char) : Bool :=
  match cs.reverse with
  | '\\' :: '\\' :: _ => false
  | '\\' :: _ => true
  | _ => false

/-- A text as markup that looks like it. A single backslash at the end is doubled, so that it cannot
protect a tag that follows. -/
def escape (s : String) : String :=
  let escaped := escapeTags s.toList
  String.ofList (if endsOpen escaped then escaped ++ ['\\'] else escaped)

/-- What markup is made of. -/
inductive Piece where
  | char (c : Char)
  | tag (text : List Char)
  deriving DecidableEq, Repr

/-- Backslashes that are shown. -/
def backslashes (count : Nat) : List Piece := List.replicate count (.char '\\')

/-- The pieces of markup, after a number of backslashes not yet looked at, and in a tag if there is
one, given its text so far in reverse. Of the backslashes before a tag every second one is left out,
and of those before another bracket the last. -/
def piecesFrom (slashes : Nat) (tag : Option (List Char)) : List Char → List Piece
  | [] => backslashes slashes
  | c :: rest =>
    match tag with
    | some text =>
      if c == ']' then .tag text.reverse :: piecesFrom 0 none rest
      else piecesFrom 0 (some (c :: text)) rest
    | none =>
      if c == '\\' then piecesFrom (slashes + 1) none rest
      else if c == '[' then
        if isTag rest then
          backslashes (slashes / 2)
            ++ if slashes % 2 == 1 then .char '[' :: piecesFrom 0 none rest
              else piecesFrom 0 (some []) rest
        else backslashes (slashes - 1) ++ .char '[' :: piecesFrom 0 none rest
      else backslashes slashes ++ .char c :: piecesFrom 0 none rest

/-- The pieces of markup. -/
def pieces (markup : List Char) : List Piece := piecesFrom 0 none markup

/-- The name in the text of a tag: up to an equals sign, in small letters and without white space at
its ends. -/
def tagName (text : List Char) : List Char :=
  (Text.trim (text.takeWhile (· != '='))).map Char.toLower

/-- A closing tag without an open tag to close. -/
structure StrayTag where
  text : List Char
  deriving DecidableEq, Repr

/-- The wording of a stray tag. -/
def StrayTag.message (stray : StrayTag) : String :=
  "closing tag '[" ++ String.ofList stray.text ++ "]' doesn't match any open tag"

/-- The names of the open tags, the last one first, without the one that is closed by name, or by no
name. -/
def closeTag (opened : List (List Char)) (name : List Char) : Option (List (List Char)) :=
  if name.isEmpty then
    match opened with
    | [] => none
    | _ :: rest => some rest
  else if opened.contains name then some (opened.erase name) else none

/-- The first closing tag that has nothing to close, given the names of the open tags. -/
def strayTag? (opened : List (List Char)) : List Piece → Option StrayTag
  | [] => none
  | .char _ :: rest => strayTag? opened rest
  | .tag text :: rest =>
    match tagName text with
    | '/' :: name =>
      match closeTag opened (Text.trim name) with
      | some opened => strayTag? opened rest
      | none => some ⟨text⟩
    | name => strayTag? (name :: opened) rest

/-- The character that a piece shows. -/
def Piece.shown? : Piece → Option Char
  | .char c => some c
  | .tag _ => none

/-- What markup looks like. -/
def plain? (markup : String) : Except StrayTag (List Char) :=
  let pieces := pieces markup.toList
  match strayTag? [] pieces with
  | some stray => .error stray
  | none => .ok (pieces.filterMap Piece.shown?)

end ModePolicy.Console.Markup
