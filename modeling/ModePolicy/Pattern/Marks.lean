/-!
Marks: where the groups of an expression begin and end.

A group has two marks, numbered in the order of the groups: one is set where the group begins, the
other where it ends. A group holds the text between its marks. While a group is matched once more,
its first mark is new and its second one is old, so it holds nothing unless it ended behind the
place where it begins now.

`Marks.givenUp` says what is left of marks when a way to match is given up.
-/

namespace ModePolicy

/-- The marks up to the latest one that has been set, each with its place, if it has one. -/
abbrev Marks := List (Option Nat)

namespace Marks

/-- The mark where a group begins. -/
def beginning (group : Nat) : Nat := 2 * group - 2

/-- The mark where a group ends. -/
def ending (group : Nat) : Nat := 2 * group - 1

/-- Sets a mark. Marks before it that have not been set have no place. -/
def put (index place : Nat) (marks : Marks) : Marks :=
  if index < marks.length then marks.set index (some place)
  else marks ++ List.replicate (index - marks.length) none ++ [some place]

/-- The place of a mark. -/
def place? (index : Nat) (marks : Marks) : Option Nat := marks[index]?.join

/-- The places between which a group holds text. -/
def span? (group : Nat) (marks : Marks) : Option (Nat × Nat) :=
  match marks.place? (beginning group), marks.place? (ending group) with
  | some first, some last => if first ≤ last then some (first, last) else none
  | _, _ => none

/-- Some group ends before it begins. -/
def areCrossed : Marks → Bool
  | some first :: some last :: rest => last < first || areCrossed rest
  | _ :: _ :: rest => areCrossed rest
  | _ => false

/-- What is left of marks when a way to match is given up: those set for the first time on this way
are gone. Those that were set before are moved back, or else they stay where this way has put
them. -/
def givenUp (moveBack : Bool) (before after : Marks) : Marks :=
  if moveBack then before else after.take before.length

end Marks

end ModePolicy
