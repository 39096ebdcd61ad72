import ModePolicy.Experiment
import ModePolicy.Mode.Lookup
import ModePolicy.Permission.Decision
import ModePolicy.Permission.FilePattern
import ModePolicy.Permission.Requirements
import ModePolicy.Tool.Call

/-!
Whether a tool may be used in a mode.

The first rule that applies decides:

1. a tool that is available in every mode is allowed; 2. an experiment that is not switched on is
denied; 3. a tool that the requirements turn off is denied; 4. in a mode that does not exist
everything is denied; 5. the first entry of the mode whose group has the tool decides: it allows the
tool, unless it restricts editing to files that match a pattern and the call would write to another
file; 6. a tool in none of the mode's groups is denied.
-/

namespace ModePolicy

/-- How a call states its parameters. -/
inductive CallData where
  | raw (value : Json)
  | read (params : CallParams)
  deriving Inhabited

/-- The parameters of a call. -/
def CallData.params : CallData → Report CallParams
  | .raw value => CallParams.ofJson value
  | .read params => return params

/-- The use of a tool that is to be decided on. -/
structure ToolUse where
  tool : Json
  slug : Json
  call : CallData := .raw .null
  requirements : Requirements := .unrestricted
  experiments : Json := .null
  deriving Inhabited

/-- Why the requirements deny a tool, if they do. A list or an object can be no entry of a table. -/
def Requirements.denial? (tool : Json) : Requirements → Except Misuse (Option Denial)
  | .unrestricted => .ok none
  | .allOff => .ok (some .allToolsDisabled)
  | .table entries =>
    if !tool.isKey then .error .unsuitable
    else .ok (if entry? tool entries == some false then some .toolDisabled else none)

/-- The experiment gate: why it denies a tool, if it does. -/
def experimentDenial? (flags tool : Json) : Except Misuse (Option Denial) := do
  if isExperiment tool then
    return if ← experimentEnabled flags tool then none else some .experimentDisabled
  else return none

/-- The entry restricts editing to files that match a pattern: the options that do so. -/
def GroupEntry.editScope? : GroupEntry → Option GroupOptions
  | .restricted .edit options => if options.fileRegex.truthy then some options else none
  | _ => none

/-- The decision of the entry that grants the group of a tool. -/
def Mode.decideBy (m : Mode) (entry : GroupEntry) (params : CallParams) : Report Decision :=
  match entry.editScope? with
  | none => return .allowed (some entry.group)
  | some options =>
    if params.path.truthy && params.writes then do
      if ← matchesPath params.path options.fileRegex then return .allowed (some entry.group)
      Report.note .debug ("Edit of " ++ params.path.literal ++ " rejected in mode '" ++ m.slug.plain
        ++ "' (pattern " ++ options.fileRegex.literal ++ ")")
      return .violation
        { modeName := m.name, pattern := options.fileRegex, description := options.description,
          path := params.path }
    else return .allowed (some entry.group)

/-- The decision of a mode: that of its first entry whose group has the tool. -/
def Mode.decide (m : Mode) (tool : Json) (params : CallParams) : Report Decision :=
  match m.groups.find? (·.group.authorises tool) with
  | none => return .denied .notInMode
  | some entry => m.decideBy entry params

/-- The decision after the gates. -/
def ToolUse.decideInMode (use : ToolUse) (custom : List Mode) : Report Decision :=
  match Mode.find? use.slug custom with
  | none => do
    Report.note .debug
      ("Tool '" ++ use.tool.plain ++ "' denied: no mode found for slug '" ++ use.slug.plain ++ "'")
    return .denied .modeNotFound
  | some m => do m.decide use.tool (← use.call.params)

/-- The gates before the mode: why one of them denies the tool, if one does. -/
def ToolUse.gate (use : ToolUse) : Except Misuse (Option Denial) := do
  match ← experimentDenial? use.experiments use.tool with
  | some why => return some why
  | none => use.requirements.denial? use.tool

/-- The decision on the use of a tool. -/
def ToolUse.check (use : ToolUse) (custom : List Mode) : Report Decision :=
  if isAlwaysAvailable use.tool then return .allowed none
  else do
    match ← use.gate with
    | some why => return .denied why
    | none => use.decideInMode custom

/-- Whether a tool may be used; a violation stops with a failure. -/
def ToolUse.isAllowed (use : ToolUse) (custom : List Mode) : Report Bool := do
  match ← use.check custom with
  | .violation v => Report.fail (.violation v)
  | decision => return decision.isAllowed

end ModePolicy
