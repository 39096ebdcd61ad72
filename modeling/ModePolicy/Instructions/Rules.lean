import ModePolicy.Instructions.RuleFile
import ModePolicy.Report
import ModePolicy.Text.Sorted
import ModePolicy.Text.Utf8

/-!
Finding rule files.

Rules for every mode are in a global directory and in the workspace; rules for one mode are in the
workspace only. In the workspace a single file is used instead when the directory has no rules.
Files of a directory come in the order of their names. Blank files are no rules, and a file that is
not UTF-8 is left out with a warning.
-/

namespace ModePolicy.Rules

/-- The directory in a workspace with rules for every mode. -/
def directory : Path := .ofString ".modeguard/rules"

/-- The file in a workspace with rules for every mode. -/
def singleFile : Path := .ofString ".modeguardrules"

/-- The directory in a workspace with rules for one mode. -/
def modeDirectory (slug : String) : Path := .ofString (".modeguard/rules-" ++ slug)

/-- The file in a workspace with rules for one mode. -/
def modeSingleFile (slug : String) : Path := .ofString (".modeguardrules-" ++ slug)

/-- What a file says, if it has a rule in it. -/
def readFile (path : Path) (source : String) (bytes : List UInt8) : Report (Option RuleFile) :=
  match Text.Utf8.decode bytes with
  | .error why => do
    Report.note .warning ("Failed to load rule file " ++ path.toString ++ ": " ++ why.message)
    return none
  | .ok cs =>
    let content := String.ofList (Text.normalizeLineEnds cs)
    return if Text.isBlankText content then none else some { path, content, source }

/-- What a path names, if anything. -/
def probe (files : FileTree) (path : Path) : Except Failure (Option FileNode) :=
  (files.probe path).mapError .unreadable

/-- The rules in the files of these names in a directory. -/
def readEntries (files : FileTree) (path : Path) (source : String) :
    List String → Report (List RuleFile)
  | [] => return []
  | name :: names => do
    match ← probe files (path.child name) with
    | some (.file bytes) =>
      let rule ← readFile (path.child name) source bytes
      return rule.toList ++ (← readEntries files path source names)
    | _ => readEntries files path source names

/-- The rules in a directory. -/
def readDirectory (files : FileTree) (path : Path) (source : String) : Report (List RuleFile) := do
  match ← probe files path with
  | some (.directory entries) =>
    readEntries files path source (Text.sorted (entries.map (·.1)))
  | _ => return []

/-- The rules in a single file. -/
def readSingle (files : FileTree) (path : Path) (source : String) : Report (List RuleFile) := do
  match ← probe files path with
  | some (.file bytes) => return (← readFile path source bytes).toList
  | _ => return []

/-- The rules in a directory, or those in a single file if it has none. -/
def readEither (files : FileTree) (directory single : Path) (source : String) :
    Report (List RuleFile) := do
  let rules ← readDirectory files directory source
  if rules.isEmpty then readSingle files single source else return rules

/-- The rules for every mode: those of the global directory, then those of the workspace. -/
def general (files : FileTree) (globalDirectory workspace : Path) : Report (List RuleFile) := do
  let globalRules ← readDirectory files globalDirectory "global"
  let localRules ← readEither files (workspace.join directory) (workspace.join singleFile) "local"
  return globalRules ++ localRules

/-- The rules for one mode. -/
def forMode (files : FileTree) (workspace : Path) (slug : String) : Report (List RuleFile) :=
  readEither files (workspace.join (modeDirectory slug)) (workspace.join (modeSingleFile slug))
    "mode"

end ModePolicy.Rules
