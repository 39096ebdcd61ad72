/-!
Regular expressions: their syntax trees and flags.

A tree says what is matched and leaves open how; `Pattern.Matcher` gives it meaning and
`Pattern.Parser` reads it from text. Characters are given by code point, because an expression may
name codes that no text holds.
-/

namespace ModePolicy

/-- Switches that change what an expression matches. -/
structure Flags where
  /-- Letter case is ignored (`i`). -/
  ignoreCase : Bool := false
  /-- `^` and `$` also match at line ends (`m`). -/
  multiLine : Bool := false
  /-- The dot also matches a line feed (`s`). -/
  dotAll : Bool := false
  /-- Character classes and letter case know ASCII only (`a`). -/
  ascii : Bool := false
  /-- Character classes and letter case know all scripts (`u`); this is what holds without
  `ascii`. -/
  unicode : Bool := false
  /-- White space and comments in the expression are skipped (`x`). -/
  verbose : Bool := false
  /-- The expression is a template (`t`), which has no repetitions. -/
  template : Bool := false
  deriving DecidableEq, Repr, Inhabited

namespace Flags

/-- The switches of either set. -/
def union (f g : Flags) : Flags :=
  { ignoreCase := f.ignoreCase || g.ignoreCase
    multiLine := f.multiLine || g.multiLine
    dotAll := f.dotAll || g.dotAll
    ascii := f.ascii || g.ascii
    unicode := f.unicode || g.unicode
    verbose := f.verbose || g.verbose
    template := f.template || g.template }

/-- The switches of both sets. -/
def inter (f g : Flags) : Flags :=
  { ignoreCase := f.ignoreCase && g.ignoreCase
    multiLine := f.multiLine && g.multiLine
    dotAll := f.dotAll && g.dotAll
    ascii := f.ascii && g.ascii
    unicode := f.unicode && g.unicode
    verbose := f.verbose && g.verbose
    template := f.template && g.template }

/-- The switches of the first set that are not in the second. -/
def diff (f g : Flags) : Flags :=
  { ignoreCase := f.ignoreCase && !g.ignoreCase
    multiLine := f.multiLine && !g.multiLine
    dotAll := f.dotAll && !g.dotAll
    ascii := f.ascii && !g.ascii
    unicode := f.unicode && !g.unicode
    verbose := f.verbose && !g.verbose
    template := f.template && !g.template }

/-- No switch is set. -/
def isEmpty (f : Flags) : Bool := f == {}

/-- The flags inside a part that switches some on and others off. Choosing the characters known
replaces the choice made outside. -/
def inside (f on off : Flags) : Flags :=
  let base := if on.ascii || on.unicode then { f with ascii := false, unicode := false } else f
  (base.union on).diff off

end Flags

/-- Kinds of characters with a short name. -/
inductive CharKind where
  /-- Decimal digits (`\d`). -/
  | digit
  /-- White space (`\s`). -/
  | space
  /-- Letters, numerals and the low line (`\w`). -/
  | word
  deriving DecidableEq, Repr

/-- A member of a character class. -/
inductive ClassItem where
  /-- One character. -/
  | code (n : Nat)
  /-- The characters from one to another. -/
  | range (low high : Nat)
  /-- The characters of a kind, or all others. -/
  | kind (k : CharKind) (negated : Bool)
  deriving DecidableEq, Repr

/-- Places between characters. -/
inductive Anchor where
  /-- The start of the text, or with `multiLine` of a line (`^`). -/
  | lineStart
  /-- The end of the text or of its last line, or with `multiLine` of any line (`$`). -/
  | lineEnd
  /-- The start of the text (`\A`). -/
  | textStart
  /-- The end of the text (`\Z`). -/
  | textEnd
  /-- Between a word character and another (`\b`). -/
  | wordEdge
  /-- Between two characters of which both or neither are word characters (`\B`). -/
  | noWordEdge
  deriving DecidableEq, Repr

/-- In which order the numbers of repetitions are tried. -/
inductive Greed where
  /-- Many first. -/
  | greedy
  /-- Few first. -/
  | lazy
  /-- As many as possible, and no others. -/
  | possessive
  deriving DecidableEq, Repr

/-- A regular expression. -/
inductive Pattern where
  /-- Nothing, which always matches. -/
  | empty
  /-- What never matches. -/
  | never
  /-- One character. -/
  | code (n : Nat)
  /-- Any character, line feeds only with `dotAll`. -/
  | any
  /-- A character of a class, or of none of its items. -/
  | oneOf (negated : Bool) (items : List ClassItem)
  /-- A place. -/
  | anchor (a : Anchor)
  /-- One expression after another. -/
  | seq (first second : Pattern)
  /-- One of two expressions, the first one tried first. -/
  | alt (first second : Pattern)
  /-- Repetition, from `least` times to `least + more` times; without `more` there is no upper
  bound. -/
  | repeated (least : Nat) (more : Option Nat) (greed : Greed) (body : Pattern)
  /-- A group whose text is kept under a number. -/
  | capture (index : Nat) (body : Pattern)
  /-- A part under other flags. -/
  | flagged (on off : Flags) (body : Pattern)
  /-- A part that is matched in its first way only. -/
  | atomic (body : Pattern)
  /-- The text of a group once more. -/
  | again (index : Nat)
  /-- What follows matches, or does not. -/
  | ahead (negated : Bool) (body : Pattern)
  /-- The `width` characters before match, or do not. -/
  | behind (negated : Bool) (width : Nat) (body : Pattern)
  /-- One of two expressions, by whether a group has matched. -/
  | ifGroup (index : Nat) (yes no : Pattern)
  deriving DecidableEq, Repr, Inhabited

namespace Pattern

/-- A list of expressions, one after another. -/
def ofList : List Pattern → Pattern
  | [] => .empty
  | [p] => p
  | p :: ps => .seq p (ofList ps)

/-- The parts of a sequence. -/
def parts : Pattern → List Pattern
  | .empty => []
  | .seq p q => p.parts ++ q.parts
  | p => [p]

/-- The expression matches single characters. -/
def isSingle : Pattern → Bool
  | .code _ | .any | .oneOf .. => true
  | .flagged _ _ body => body.isSingle
  | _ => false

/-- The expression matches in at most one way and has no parts. -/
def isPlain : Pattern → Bool
  | .never | .code _ | .any | .oneOf .. | .anchor _ | .again _ => true
  | _ => false

/-- The plain parts with which a sequence and others begin, and what is left of the sequences. -/
def commonParts : List Pattern → List (List Pattern) → List Pattern × List (List Pattern)
  | [], others => ([], [] :: others)
  | p :: ps, others =>
    if p.isPlain && others.all (·.head? == some p) then
      let (common, rest) := commonParts ps (others.map (·.drop 1))
      (p :: common, rest)
    else ([], (p :: ps) :: others)

/-- The members of the class that a sequence is, if it is a single character. -/
def classItems? : List Pattern → Option (List ClassItem)
  | [.code n] => some [.code n]
  | [.oneOf false items] => some items
  | _ => none

/-- One of several expressions, the first one tried first. -/
def ofAlternatives : List Pattern → Pattern
  | [] => .empty
  | [p] => p
  | p :: ps => .alt p (ofAlternatives ps)

/-- A class of characters; that of one character is the character. -/
def ofClass (negated : Bool) (items : List ClassItem) : Pattern :=
  match negated, items.eraseDups with
  | false, [.code n] => .code n
  | negated, items => .oneOf negated items

/-- One of several sequences, the first one tried first. What all of them begin with is matched
once, and a choice of single characters is a class, so that neither is tried twice. -/
def ofBranches : List Pattern → Pattern
  | [] => .empty
  | [p] => p
  | p :: ps =>
    let (common, branches) := commonParts p.parts (ps.map (·.parts))
    match branches.mapM classItems? with
    | some classes => ofList (common ++ [.oneOf false classes.flatten.eraseDups])
    | none => ofList (common ++ [ofAlternatives (branches.map ofList)])

/-- How the first repetition in an expression is tried, if there is one. -/
def firstRepetition? : Pattern → Option Greed
  | .repeated _ _ greed _ => some greed
  | .seq p q | .alt p q | .ifGroup _ p q => p.firstRepetition?.or q.firstRepetition?
  | .capture _ body | .flagged _ _ body | .atomic body => body.firstRepetition?
  | .ahead _ body | .behind _ _ body => body.firstRepetition?
  | _ => none

/-- The least and, if there is one, the greatest number of characters that an expression matches;
the widths of groups are given. -/
def width (groups : Nat → Nat × Option Nat) : Pattern → Nat × Option Nat
  | .empty | .never | .anchor _ | .ahead .. | .behind .. => (0, some 0)
  | .code _ | .any | .oneOf .. => (1, some 1)
  | .seq p q =>
    let (a, b) := p.width groups
    let (c, d) := q.width groups
    (a + c, do return (← b) + (← d))
  | .alt p q =>
    let (a, b) := p.width groups
    let (c, d) := q.width groups
    (min a c, do return max (← b) (← d))
  | .repeated least more _ body =>
    let (a, b) := body.width groups
    let most := more.map (least + ·)
    (a * least, if b == some 0 || most == some 0 then some 0 else do return (← b) * (← most))
  | .capture _ body | .flagged _ _ body | .atomic body => body.width groups
  | .again index => groups index
  | .ifGroup _ yes no =>
    let (a, b) := yes.width groups
    let (c, d) := no.width groups
    (min a c, do return max (← b) (← d))

end Pattern

/-- A regular expression with the flags that hold for all of it. -/
structure Regex where
  /-- What is matched. -/
  body : Pattern
  /-- The flags. -/
  flags : Flags := {}
  /-- The length of the shortest match, as far as it can be told from the expression. -/
  least : Nat := 0
  deriving DecidableEq, Repr, Inhabited

end ModePolicy
