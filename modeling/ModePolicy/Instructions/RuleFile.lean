import ModePolicy.Files.Path
import ModePolicy.Text.Blank

/-!
Rule files, and the text that several of them make together.
-/

namespace ModePolicy

/-- A rule file. -/
structure RuleFile where
  path : Path
  content : String
  source : String
  deriving DecidableEq, Repr, Inhabited

namespace RuleFile

/-- The line that announces the rules of a file. -/
def heading (r : RuleFile) : String := "# Rules from " ++ r.source ++ ": " ++ r.path.name

/-- The lines that a file contributes: its heading, what it says, and an empty line. -/
def parts (r : RuleFile) : List String := [r.heading, Text.strip r.content, ""]

/-- The text of several files. -/
def merge (rules : List RuleFile) : String := Text.strip ("\n".intercalate (rules.flatMap parts))

end RuleFile

end ModePolicy
