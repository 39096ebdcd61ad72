import ModePolicy.Failure

/-!
Decisions on the use of a tool.
-/

namespace ModePolicy

/-- Why a tool may not be used. -/
inductive Denial where
  /-- The tool is an experiment that is not switched on. -/
  | experimentDisabled
  | allToolsDisabled
  | toolDisabled
  | modeNotFound
  | notInMode
  deriving DecidableEq, Repr

/-- The name of a reason. -/
def Denial.name : Denial → String
  | .experimentDisabled => "experiment_disabled"
  | .allToolsDisabled => "all_tools_disabled"
  | .toolDisabled => "tool_disabled"
  | .modeNotFound => "mode_not_found"
  | .notInMode => "not_in_mode"

/-- What is decided on the use of a tool. -/
inductive Decision where
  /-- The tool may be used; a group granted it unless it is available in every mode. -/
  | allowed (group : Option ToolGroup)
  | denied (why : Denial)
  | violation (v : PathViolation)
  deriving Inhabited

/-- The tool may be used. -/
def Decision.isAllowed : Decision → Bool
  | .allowed _ => true
  | _ => false

end ModePolicy
