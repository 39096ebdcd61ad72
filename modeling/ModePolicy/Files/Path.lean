import ModePolicy.Text.Lines

/-!
Paths in normal form: an anchor, and parts without empty ones and without single dots. Steps to the
parent are kept, because what they mean depends on the files.
-/

namespace ModePolicy

/-- A path. -/
structure Path where
  /-- Empty for a relative path; one slash, or two, for an absolute one. -/
  anchor : String := ""
  parts : List String := []
  deriving DecidableEq, Repr, Inhabited

namespace Path

/-- The path that a text names. Exactly two leading slashes are an anchor of their own. -/
def ofString (s : String) : Path where
  anchor := match s.toList with
    | '/' :: '/' :: '/' :: _ => "/"
    | '/' :: '/' :: _ => "//"
    | '/' :: _ => "/"
    | _ => ""
  parts := ((Text.splitAtChar '/' s.toList).map String.ofList).filter fun p => p != "" && p != "."

/-- The text of a path; the path without parts is a single dot. -/
def toString (p : Path) : String :=
  if p.anchor.isEmpty && p.parts.isEmpty then "." else p.anchor ++ "/".intercalate p.parts

/-- A path followed by another; an absolute one replaces it. -/
def join (p q : Path) : Path :=
  if q.anchor.isEmpty then { p with parts := p.parts ++ q.parts } else q

/-- The path of a file in a directory. -/
def child (p : Path) (name : String) : Path := { p with parts := p.parts ++ [name] }

/-- The path holds the character NUL, which no file name does. -/
def hasNul (p : Path) : Bool := p.parts.any fun part => part.toList.contains '\x00'

/-- The last part, or nothing. -/
def name (p : Path) : String := p.parts.getLast?.getD ""

end Path

end ModePolicy
