import ModePolicy.Pattern.Basic
import ModePolicy.Pattern.Marks
import ModePolicy.Text.Blank
import ModePolicy.Text.Letter
import ModePolicy.Text.LetterCase

/-!
What regular expressions match.

`Pattern.run` tries the ways in which an expression matches at a place, in their order, and hands
each to a continuation until that succeeds; the order decides which way an atomic part, a possessive
repetition or a look-around settles on.

A repetition that has its least number of rounds begins another only if the round before has moved
on, so every repetition ends.

An attempt that fails tells which marks it has left, since not all of them are moved back. Inside a
repetition every choice moves them back. Outside of one a group begins only once, so that marks
which stay can be noticed by nothing but a condition on a group inside that group itself. The rounds
of a possessive repetition do not count as inside a repetition here, though groups begin more than
once in them; there marks that stay can be noticed by references too.
-/

namespace ModePolicy

/-- A place in a text: the characters before it, nearest first, and those after it. -/
structure Cursor where
  before : List Char
  after : List Char
  deriving DecidableEq, Repr

namespace Cursor

/-- The number of characters before the place. -/
def offset (cursor : Cursor) : Nat := cursor.before.length

/-- The place a number of characters further back, if the text reaches that far. -/
def back? (cursor : Cursor) (count : Nat) : Option Cursor :=
  if count ≤ cursor.before.length then
    some ⟨cursor.before.drop count, (cursor.before.take count).reverse ++ cursor.after⟩
  else none

/-- The characters of the whole text between two places. -/
def between (cursor : Cursor) (first last : Nat) : List Char :=
  ((cursor.before.reverse ++ cursor.after).drop first).take (last - first)

end Cursor

/-- A state of the search. -/
structure MatchState where
  cursor : Cursor
  marks : Marks := []
  deriving DecidableEq, Repr

/-- The end of a match, or the marks that are left if there is none. -/
abbrev Outcome := Except Marks MatchState

namespace MatchState

/-- There is no match from here. -/
def fail (s : MatchState) : Outcome := .error s.marks

/-- Sets a mark at the place reached. -/
def mark (s : MatchState) (index : Nat) : MatchState :=
  { s with marks := s.marks.put index s.cursor.offset }

/-- Goes on as a second attempt does if a first one has failed. -/
def orElse (s : MatchState) (moveBack : Bool) (first : Outcome) (second : MatchState → Outcome) :
    Outcome :=
  match first with
  | .ok result => .ok result
  | .error left => second { s with marks := Marks.givenUp moveBack s.marks left }

end MatchState

/-- The rest of a match. -/
abbrev Continuation := MatchState → Outcome

/-- Tries the ways of a match with a continuation, in order. -/
abbrev Matching := MatchState → Continuation → Outcome

namespace CharKind

/-- The character is of this kind. -/
def holds (kind : CharKind) (ascii : Bool) (n : Nat) : Bool :=
  match kind, ascii with
  | .digit, true => Text.isAsciiDigit n
  | .digit, false => Text.isDecimalDigit n
  | .space, true => Text.isAsciiBlankCode n
  | .space, false => Text.isBlankCode n
  | .word, true => Text.isAsciiWordChar n
  | .word, false => Text.isWordChar n

end CharKind

namespace Flags

/-- The lower-case form of a character. -/
def lower (f : Flags) (n : Nat) : Nat := if f.ascii then Text.lowerAscii n else Text.lowerCase n

/-- The lower-case forms alike to a lower-case form. -/
def alike (f : Flags) (n : Nat) : List Nat := if f.ascii then [n] else Text.alikeLower n

/-- The capitals of a lower-case form. -/
def capitals (f : Flags) (n : Nat) : List Nat :=
  if f.ascii then Text.capitalsOfAscii n else Text.capitalsOf n

/-- The characters that count as one with a character: itself, or all of its forms where case is
ignored. -/
def variants (f : Flags) (n : Nat) : List Nat :=
  if f.ignoreCase then
    (f.alike (f.lower n)).flatMap fun m => m :: f.capitals m
  else [n]

end Flags

namespace ClassItem

/-- The class member covers a character. -/
def holds (f : Flags) (n : Nat) : ClassItem → Bool
  | .code m => (f.variants n).contains m
  | .range low high => (f.variants n).any fun m => low ≤ m && m ≤ high
  | .kind k negated => k.holds f.ascii n != negated

end ClassItem

namespace Anchor

/-- A word character stands first. -/
def wordFirst (f : Flags) : List Char → Bool
  | [] => false
  | c :: _ => CharKind.word.holds f.ascii c.toNat

/-- The place is one of this kind. In a text without characters there is neither an edge nor a place
that is none. -/
def holds (f : Flags) (cursor : Cursor) : Anchor → Bool
  | .textStart => cursor.before.isEmpty
  | .textEnd => cursor.after.isEmpty
  | .lineStart => cursor.before.isEmpty || (f.multiLine && cursor.before.head? == some '\n')
  | .lineEnd =>
    cursor.after.isEmpty || cursor.after == ['\n']
      || (f.multiLine && cursor.after.head? == some '\n')
  | .wordEdge => wordFirst f cursor.before != wordFirst f cursor.after
  | .noWordEdge =>
    !(cursor.before.isEmpty && cursor.after.isEmpty)
      && wordFirst f cursor.before == wordFirst f cursor.after

end Anchor

namespace Pattern

/-- Matches one character that passes a test. -/
def oneChar (p : Char → Bool) : Matching := fun s k =>
  match s.cursor.after with
  | [] => s.fail
  | c :: rest => if p c then k { s with cursor := ⟨c :: s.cursor.before, rest⟩ } else s.fail

/-- Matches a given text. -/
def thisText (f : Flags) : List Char → Matching
  | [], s, k => k s
  | c :: cs, s, k =>
    oneChar (fun d => if f.ignoreCase then f.lower c.toNat == f.lower d.toNat else c == d) s
      fun s => thisText f cs s k

/-- Matches a number of rounds. -/
def rounds (m : Matching) : Nat → Matching
  | 0, s, k => k s
  | n + 1, s, k => m s fun s => rounds m n s k

/-- Another round may begin: the bound leaves room, and the last one that began did not begin
here. -/
def mayGoOn (room : Option Nat) (last : Option Nat) (s : MatchState) : Bool :=
  room != some 0 && last != some s.cursor.after.length

/-- Matches further rounds, many first. The first number bounds the rounds; each but the last moves
on. -/
def manyFirst (moveBack : Bool) (m : Matching) : Nat → Option Nat → Option Nat → Matching
  | 0, _, _, s, k => k s
  | steps + 1, room, last, s, k =>
    if mayGoOn room last s then
      s.orElse moveBack
        (m s fun t =>
          manyFirst moveBack m steps (room.map (· - 1)) (some s.cursor.after.length) t k)
        k
    else k s

/-- Matches further rounds, few first. -/
def fewFirst (moveBack : Bool) (m : Matching) : Nat → Option Nat → Option Nat → Matching
  | 0, _, _, s, k => k s
  | steps + 1, room, last, s, k =>
    s.orElse moveBack (k s) fun s =>
      if mayGoOn room last s then
        m s fun t =>
          fewFirst moveBack m steps (room.map (· - 1)) (some s.cursor.after.length) t k
      else s.fail

/-- The state after the first way of a match. -/
def firstWay (m : Matching) (s : MatchState) : Outcome := m s .ok

/-- The state after further rounds, each in its first way, until one fails. -/
def allRounds (m : Matching) : Nat → Option Nat → Option Nat → MatchState → MatchState
  | 0, _, _, s => s
  | steps + 1, room, last, s =>
    if mayGoOn room last s then
      match firstWay m s with
      | .ok t => allRounds m steps (room.map (· - 1)) (some s.cursor.after.length) t
      | .error _ => s
    else s

/-- The state after a number of rounds, each in its first way. -/
def firstRounds (m : Matching) : Nat → MatchState → Outcome
  | 0, s => .ok s
  | n + 1, s => do firstRounds m n (← firstWay m s)

/-- Matches a repetition. One of single characters is a single choice among the places where it may
end; in any other each round is a choice of its own, and giving a round up moves all marks back. -/
def repeating (inside single : Bool) (m : Matching) (least : Nat) (more : Option Nat) :
    Greed → Matching
  | .greedy => fun s k => rounds m least s fun s =>
    let steps := s.cursor.after.length + 2
    if single then manyFirst inside m steps more none s fun t => t.orElse inside (k t) (·.fail)
    else manyFirst true m steps more none s k
  | .lazy => fun s k => rounds m least s fun s =>
    fewFirst inside m (s.cursor.after.length + 2) more none s k
  | .possessive => fun s k => do
    let s ← firstRounds m least s
    k (allRounds m (s.cursor.after.length + 2) more none s)

/-- Tries the ways in which an expression matches, in order. The expression may stand inside a
repetition. -/
def run (f : Flags) (inside : Bool) : Pattern → Matching
  | .empty => fun s k => k s
  | .never => fun s _ => s.fail
  | .code n =>
    oneChar fun c => if f.ignoreCase then (f.variants c.toNat).contains n else c.toNat == n
  | .any => oneChar fun c => f.dotAll || c != '\n'
  | .oneOf negated items => oneChar fun c => items.any (·.holds f c.toNat) != negated
  | .anchor a => fun s k => if a.holds f s.cursor then k s else s.fail
  | .seq p q => fun s k => p.run f inside s fun s => q.run f inside s k
  | .alt p q => fun s k =>
    s.orElse inside (p.run f inside s k) fun s =>
      s.orElse inside (q.run f inside s k) (·.fail)
  | .repeated least more greed body =>
    repeating inside body.isSingle (body.run f (inside || greed != .possessive)) least more greed
  | .capture index body => fun s k =>
    body.run f inside (s.mark (Marks.beginning index)) fun t => k (t.mark (Marks.ending index))
  | .flagged on off body => body.run (f.inside on off) inside
  | .atomic body => fun s k => do k (← firstWay (body.run f inside) s)
  | .again index => fun s k =>
    match s.marks.span? index with
    | some (first, last) => thisText f (s.cursor.between first last) s k
    | none => s.fail
  | .ahead false body => fun s k => do
    let t ← firstWay (body.run f inside) s
    k { s with marks := t.marks }
  | .ahead true body => fun s k =>
    match firstWay (body.run f inside) s with
    | .ok t => t.fail
    | .error left => k { s with marks := Marks.givenUp inside s.marks left }
  | .behind negated width body => fun s k =>
    match s.cursor.back? width, negated with
    | none, false => s.fail
    | none, true => k s
    | some cursor, false => do
      let t ← firstWay (body.run f inside) { s with cursor := cursor }
      k { s with marks := t.marks }
    | some cursor, true =>
      match firstWay (body.run f inside) { s with cursor := cursor } with
      | .ok t => t.fail
      | .error left => k { s with marks := Marks.givenUp inside s.marks left }
  | .ifGroup index yes no => fun s k =>
    if (s.marks.span? index).isSome then yes.run f inside s k else no.run f inside s k

end Pattern

end ModePolicy
