import ModePolicy.Permission.Check
import ModePolicy.Tool.Definition

/-!
Toolboxes: definitions of tools, with a switch for each name.

A name may be switched off before a tool of that name is added. Of several definitions of one name,
the last says whether the tool may be used.
-/

namespace ModePolicy

/-- Definitions of tools, and the names that are switched off. -/
structure Toolbox where
  definitions : List ToolDefinition := []
  switchedOff : List Json := []
  deriving Inhabited

namespace Toolbox

/-- Adds a definition. -/
def add (b : Toolbox) (d : ToolDefinition) : Toolbox :=
  { b with definitions := b.definitions ++ [d] }

/-- Adds the tool of an external server. -/
def addServerTool (b : Toolbox) (data : Json) : Except Misuse Toolbox :=
  b.add <$> ToolDefinition.ofServerTool data

/-- A name that can be in a set; lists and objects cannot. -/
def requireKey (name : Json) : Except Misuse Unit :=
  if name.isKey then .ok () else .error .unsuitable

/-- A name is switched off. -/
def isOff (b : Toolbox) (name : Json) : Bool := b.switchedOff.any (·.same name)

/-- Switches a name off. -/
def switchOff (b : Toolbox) (name : Json) : Toolbox :=
  if b.isOff name then b else { b with switchedOff := b.switchedOff ++ [name] }

/-- Switches a name on. -/
def switchOn (b : Toolbox) (name : Json) : Toolbox :=
  { b with switchedOff := b.switchedOff.filter fun n => !n.same name }

/-- The entries that definitions make: whether their tools may be used. -/
def definitionEntries (b : Toolbox) : List (Json × Bool) :=
  b.definitions.foldl
    (fun entries d => Requirements.setEntry d.name (d.enabled && !b.isOff d.name) entries) []

/-- Whether the tools of the box, and others that are switched off, may be used. -/
def entries (b : Toolbox) : List (Json × Bool) :=
  b.switchedOff.foldl (fun entries name => Requirements.setEntry name false entries)
    b.definitionEntries

/-- The requirements that the box makes. Every name must be fit for a table. -/
def requirements (b : Toolbox) : Except Misuse Requirements := do
  b.definitions.forM fun d => requireKey d.name
  return .table b.entries

/-- The tool that a definition is checked as: those of external servers as the tool that uses
them. -/
def checkedName (d : ToolDefinition) : Json :=
  if d.group == some .mcp && (ToolGroup.ofTool? d.name).isNone then .str "use_mcp_tool" else d.name

/-- A definition may be used in a mode. -/
def allows (entries : List (Json × Bool)) (slug : Json) (custom : List Mode) (experiments : Json)
    (d : ToolDefinition) : Report Bool :=
  if d.group == some .mcp && (ToolGroup.ofTool? d.name).isNone
      && Requirements.entry? d.name entries == some false then return false
  else do
    let use : ToolUse :=
      { tool := checkedName d, slug, requirements := .table entries, experiments }
    return (← use.check custom).isAllowed

/-- The definitions that a test keeps, in order. -/
def keep (test : ToolDefinition → Report Bool) : List ToolDefinition → Report (List ToolDefinition)
  | [] => return []
  | d :: rest => do
    let kept ← test d
    let others ← keep test rest
    return if kept then d :: others else others

/-- The definitions that may be used in a mode, in order. -/
def filter (b : Toolbox) (slug : Json) (custom : List Mode) (experiments : Json) :
    Report (List ToolDefinition) := do
  let _ ← b.requirements
  keep (allows b.entries slug custom experiments) b.definitions

end Toolbox

end ModePolicy
