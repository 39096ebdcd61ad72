import ModePolicy.Pattern.Matcher

/-!
What expressions begin with, and searches for them.

`Pattern.lead` finds the class that the first character of every match belongs to, where the
expression begins with one. A search tries an expression only at characters of that class, and
there the flags of the whole expression decide which characters a class has, also where the class
stands in a part under other flags. `Regex.find?` looks for a match anywhere in a text.
-/

namespace ModePolicy

/-- What an expression begins with. -/
inductive Lead where
  | nothing
  /-- A character of a class, or of none of its items, under the flags of its part. -/
  | oneOf (flags : Flags) (negated : Bool) (items : List ClassItem)
  | other
  deriving DecidableEq, Repr

/-- What an expression begins with that begins with a part: an empty part counts as well. -/
def Lead.ofPart : Lead → Lead
  | .nothing => .other
  | lead => lead

namespace ClassItem

/-- The member is a kind of characters. -/
def isKind : ClassItem → Bool
  | .kind .. => true
  | _ => false

/-- The member has characters with several forms, or is too large to tell. -/
def isCased (f : Flags) : ClassItem → Bool
  | .code n => (f.variants n).length > 1
  | .range low high =>
    high > 0xFFFF
      || (List.range (high + 1 - low)).any fun i => (f.variants (low + i)).length > 1
  | .kind .. => false

end ClassItem

namespace Pattern

/-- What an expression begins with, also inside its first part. -/
def lead (f : Flags) : Pattern → Lead
  | .empty => .nothing
  | .code n => .oneOf f false [.code n]
  | .oneOf negated items => .oneOf f negated items
  | .seq p q =>
    match p.lead f with
    | .nothing => q.lead f
    | lead => lead
  | .capture _ body => (body.lead f).ofPart
  | .flagged on off body => (body.lead (f.inside on off)).ofPart
  | _ => .other

end Pattern

namespace Regex

/-- The class of the characters at which a match is looked for, negated or not, unless it is looked
for everywhere. A class without kinds of characters is the same under all flags, and one whose
members have several forms is not looked at. -/
def firstClass? (r : Regex) : Option (Bool × List ClassItem) :=
  match r.body.lead r.flags with
  | .oneOf f negated items =>
    if items.any (·.isKind) && !(f.ignoreCase && items.any (·.isCased f)) then
      some (negated, items)
    else none
  | _ => none

/-- A match is looked for at a character, given the class of those at which it is. -/
def isTriedAt (r : Regex) (first : Option (Bool × List ClassItem)) (c : Char) : Bool :=
  match first with
  | some (negated, items) =>
    items.any (·.holds { ascii := r.flags.ascii } c.toNat) != negated
  | none => true

/-- The end of a match at a place, if there is one. No match is looked for where the text is too
short for one. -/
def matchAt? (r : Regex) (cursor : Cursor) : Option MatchState :=
  if cursor.after.length < r.least then none
  else (r.body.run r.flags false { cursor := cursor } .ok).toOption

/-- The end of a match at a place or further on, given the class of the characters at which a match
is looked for. -/
def findFrom (r : Regex) (first : Option (Bool × List ClassItem)) (before : List Char) :
    List Char → Option MatchState
  | [] => r.matchAt? ⟨before, []⟩
  | c :: rest =>
    match if r.isTriedAt first c then r.matchAt? ⟨before, c :: rest⟩ else none with
    | some result => some result
    | none => findFrom r first (c :: before) rest

/-- The end of the first match in a text. -/
def find? (r : Regex) (text : String) : Option MatchState :=
  r.findFrom r.firstClass? [] text.toList

end Regex

end ModePolicy
