import ModePolicy.Failure

/-!
Experiments: tools that can be used only after they have been switched on.
-/

namespace ModePolicy

/-- The names of the experiments. -/
def experimentIds : List String :=
  ["experimentalDiffStrategy", "search_and_replace", "insert_content", "powerSteering"]

/-- A value is the name of an experiment. -/
def isExperiment (value : Json) : Bool :=
  match value with
  | .str s => experimentIds.contains s
  | _ => false

/-- A value that must be the name of an experiment. -/
def requireExperiment (value : Json) : Except Failure Json :=
  if isExperiment value then .ok value else .error (.badValue (.noSuchExperiment value))

/-- An experiment is switched on: there are flags, and the one of this name counts as present. Flags
that are absent or empty switch nothing on; other values that are no object cannot be asked. -/
def experimentEnabled (flags : Json) (experiment : Json) : Except Misuse Bool :=
  if !flags.truthy then .ok false
  else
    match flags with
    | .obj fields => do return ((← Json.entry? fields experiment).getD (.bool false)).truthy
    | _ => .error .fieldless

end ModePolicy
