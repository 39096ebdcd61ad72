import ModePolicy.Failure
import ModePolicy.Mode.Basic

/-!
Modes and prompt overrides read from data.

Reading asks for no more than it needs: the required fields must be there and every item of the
groups must grant a group. What the texts are is left to `Mode.Validation`.
-/

namespace ModePolicy

/-- The options in an object. -/
def GroupOptions.ofFields (fields : Fields Json) : GroupOptions where
  fileRegex := Json.oneOf fields "fileRegex" "file_regex"
  description := (fields.lookup "description").getD .null

namespace GroupEntry

/-- The group that a value names. -/
def readGroup (value : Json) : Except EntryError ToolGroup :=
  match ToolGroup.ofJson? value with
  | some g => .ok g
  | none => .error (.unknownGroup value)

/-- A grant from data: the name of a group, or a list of a name and options. -/
def ofJson : Json → Except EntryError GroupEntry
  | .str s => return .simple (← readGroup (.str s))
  | .arr [name, options] => do
    let group ← readGroup name
    match options with
    | .obj fields => return .restricted group (.ofFields fields)
    | other => throw (.badOptions group other)
  | other => .error (.malformed other)

/-- The grants of a list; the first item that grants no group is reported. -/
def ofItems : List Json → Except EntryError (List GroupEntry)
  | [] => .ok []
  | item :: rest => return (← ofJson item) :: (← ofItems rest)

end GroupEntry

/-- The fields that are missing in a value. -/
def ModeField.missingIn (value : Json) : List ModeField → Except Misuse (List ModeField)
  | [] => .ok []
  | f :: rest => do
    let found ← f.keys.mapM value.mentions
    let others ← missingIn value rest
    return if found.any id then others else f :: others

/-- A mode from data. -/
def Mode.ofJson (data : Json) : Except Failure Mode := do
  let missing ← ModeField.missingIn data ModeField.all
  if !missing.isEmpty then throw (.badMode (.missing missing))
  let slug ← data.field "slug"
  let name ← data.field "name"
  let role ← data.eitherField "roleDefinition" "role_definition"
  let items ← (← data.field "groups").elements
  let instructions ← data.eitherField "customInstructions" "custom_instructions"
  match GroupEntry.ofItems items with
  | .error why => throw (.badMode (.entry why))
  | .ok groups => return { slug, name, role, groups, instructions }

/-- A prompt override from data. -/
def PromptOverride.ofJson (data : Json) : Except Misuse PromptOverride := do
  let role ← data.eitherField "roleDefinition" "role_definition"
  let instructions ← data.eitherField "customInstructions" "custom_instructions"
  return { role, instructions }

end ModePolicy
