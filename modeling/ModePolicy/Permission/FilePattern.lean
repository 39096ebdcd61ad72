import ModePolicy.Pattern.Lead
import ModePolicy.Pattern.Parser
import ModePolicy.Report

/-!
Matching paths against file patterns.

A pattern that cannot be used matches nothing, and that is reported as an error.
-/

namespace ModePolicy

/-- Why a pattern cannot be used on a path. -/
inductive PatternProblem where
  | unhashable (typeName : String)
  | notText
  | malformed (why : Pattern.SyntaxError)
  | pathNotText (typeName : String)
  deriving Inhabited

/-- The wording of a problem. -/
def PatternProblem.message : PatternProblem → String
  | .unhashable typeName => "unhashable type: '" ++ typeName ++ "'"
  | .notText => "first argument must be string or compiled pattern"
  | .malformed why => why.message
  | .pathNotText typeName => "expected string or bytes-like object, got '" ++ typeName ++ "'"

/-- Whether a pattern matches somewhere in a path, or what stands in the way. -/
def searchPath (path pattern : Json) : Except Failure (Except PatternProblem Bool) :=
  match pattern with
  | .str source =>
    match Pattern.compile source with
    | .error (.syntaxError e) => .ok (.error (.malformed e))
    | .error .repeatTooLarge => .error .repeatTooLarge
    | .error .flagConflict => .error (.badValue .flagConflict)
    | .ok regex =>
      match path with
      | .str text =>
        match regex.find? text with
        | some found => if found.marks.areCrossed then .error .crossedGroup else .ok (.ok true)
        | none => .ok (.ok false)
      | other => .ok (.error (.pathNotText other.typeName))
  | other => .ok (.error (if other.isKey then .notText else .unhashable other.typeName))

/-- Whether a pattern matches somewhere in a path. -/
def matchesPath (path pattern : Json) : Report Bool := do
  match ← searchPath path pattern with
  | .ok found => return found
  | .error problem =>
    Report.note .error ("Invalid file pattern " ++ pattern.literal ++ ": " ++ problem.message)
    return false

end ModePolicy
