import ModePolicy.Json.Basic

/-!
Tool groups: what a mode grants its tools by.

Every group names the tools it authorises. Four tools are available in every mode, whatever its
groups are.
-/

namespace ModePolicy

/-- A group of tools that a mode can grant. -/
inductive ToolGroup where
  | read
  | edit
  | browser
  | command
  | mcp
  | modes
  | review
  deriving DecidableEq, Repr, Inhabited

namespace ToolGroup

/-- All groups, in order. -/
def all : List ToolGroup := [.read, .edit, .browser, .command, .mcp, .modes, .review]

/-- The name of a group. -/
def name : ToolGroup → String
  | .read => "read"
  | .edit => "edit"
  | .browser => "browser"
  | .command => "command"
  | .mcp => "mcp"
  | .modes => "modes"
  | .review => "review"

/-- The tools of a group. -/
def tools : ToolGroup → List String
  | .read =>
    ["read_file", "fetch_instructions", "search_files", "list_files", "list_code_definition_names"]
  | .edit => ["apply_diff", "write_to_file", "insert_content", "search_and_replace"]
  | .browser => ["browser_action"]
  | .command => ["execute_command"]
  | .mcp => ["use_mcp_tool", "access_mcp_resource"]
  | .modes => ["switch_mode", "new_task"]
  | .review => ["reviewer"]

/-- The tools of the group are granted in every mode. -/
def isAlwaysAvailable : ToolGroup → Bool
  | .modes => true
  | _ => false

/-- The group of this name. -/
def ofName? (name : String) : Option ToolGroup := all.find? (·.name == name)

/-- The group that a value names. -/
def ofJson? : Json → Option ToolGroup
  | .str s => ofName? s
  | _ => none

/-- The names of all groups, sorted. -/
def sortedNames : List String := ["browser", "command", "edit", "mcp", "modes", "read", "review"]

/-- A tool belongs to the group. A tool is given as a value, which is a tool's name only if it is a
text. -/
def authorises (group : ToolGroup) (tool : Json) : Bool :=
  group.tools.any fun t => tool.same (.str t)

/-- The first group that lists a tool. -/
def ofTool? (tool : Json) : Option ToolGroup := all.find? (·.authorises tool)

end ToolGroup

/-- The tools that every mode has. -/
def alwaysAvailableTools : List String :=
  ["ask_followup_question", "attempt_completion", "switch_mode", "new_task"]

/-- The tool is available in every mode. -/
def isAlwaysAvailable (tool : Json) : Bool := alwaysAvailableTools.any fun t => tool.same (.str t)

/-- The members of a list, each at its first place only. -/
def firstSeen (names : List String) : List String :=
  names.foldl (fun seen name => if seen.contains name then seen else seen ++ [name]) []

/-- The tools of a list of groups and those that every mode has, each once. -/
def toolsOfGroups (groups : List ToolGroup) : List String :=
  firstSeen (groups.flatMap (·.tools) ++ alwaysAvailableTools)

end ModePolicy
