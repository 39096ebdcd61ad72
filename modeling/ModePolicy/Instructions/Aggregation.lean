import ModePolicy.Instructions.Rules
import ModePolicy.Mode.Effective

/-!
Putting the instructions of a mode together with those of its surroundings.

The sections are the language, the global instructions, the instructions of the mode and the rules,
in this order. A section with nothing in it is left out, and without any section the whole text is
empty.
-/

namespace ModePolicy.Instructions

/-- What stands before the sections. -/
def header : String :=
  "====\n\nUSER'S CUSTOM INSTRUCTIONS\n\n" ++
  "The following additional instructions are provided by the user, and should be followed to " ++
  "the best of your ability."

/-- The section on the language that the user prefers. -/
def languageSection (language : Json) : List String :=
  if language.truthy then
    ["Language Preference:\nYou should always speak and think in the \"" ++ language.plain
      ++ "\" language."]
  else []

/-- A section with a title, or none if its text is blank. -/
def textSection (title text : String) : List String :=
  if Text.isBlankText text then [] else [title ++ ":\n" ++ Text.strip text]

/-- The section with the rules. -/
def rulesSection (rules : List RuleFile) : List String :=
  let text := RuleFile.merge rules
  if text.isEmpty then [] else ["Rules:\n\n" ++ text]

/-- The whole text of some sections. -/
def ofSections : List String → String
  | [] => ""
  | sections => header ++ "\n\n" ++ "\n\n".intercalate sections

/-- A text; other values have no text. -/
def requireText : Json → Except Misuse String
  | .str s => .ok s
  | _ => .error .fieldless

/-- A path; other values than texts name none. -/
def requirePath : Json → Except Misuse Path
  | .str s => .ok (.ofString s)
  | _ => .error .unsuitable

/-- The rules of a mode and the general ones. -/
def loadRules (files : FileTree) (globalDirectory workspace : Path) (slug : Json) :
    Report (List RuleFile × List RuleFile) := do
  let modeRules ← Rules.forMode files workspace slug.plain
  let generalRules ← Rules.general files globalDirectory workspace
  Report.note .debug ("Loaded " ++ toString modeRules.length ++ " mode rule files and "
    ++ toString generalRules.length ++ " general rule files for '" ++ slug.plain ++ "' from "
    ++ workspace.toString)
  return (modeRules, generalRules)

/-- The instructions of a mode together with those of its surroundings. -/
def aggregate (files : FileTree) (globalDirectory : Path) : Aggregator := fun request => do
  let workspace ← requirePath request.workspace
  let (modeRules, generalRules) ← loadRules files globalDirectory workspace request.slug
  let globalText ← requireText request.globalInstructions
  let modeText ← requireText request.instructions
  return .str <| ofSections <|
    languageSection request.language ++ textSection "Global Instructions" globalText
      ++ textSection "Mode-specific Instructions" modeText
      ++ rulesSection (modeRules ++ generalRules)

end ModePolicy.Instructions
