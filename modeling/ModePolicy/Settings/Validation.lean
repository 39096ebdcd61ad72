import ModePolicy.Experiment
import ModePolicy.Mode.Validation
import ModePolicy.Report

/-!
Validation of the data of settings.
-/

namespace ModePolicy.SettingsFlaw

/-- What is wrong with the version. -/
def ofVersion : Option Json → List SettingsFlaw
  | none => [.missingVersion]
  | some value => if value.isStr then [] else [.versionNotText]

/-- What is wrong with the current mode. -/
def ofMode : Option Json → List SettingsFlaw
  | none => []
  | some value => if value.isStr then [] else [.modeNotText]

/-- The slug in the data of a mode, if it is a text. -/
def slugText? : Json → Option String
  | .obj fields => (fields.lookup "slug").bind (·.str?)
  | _ => none

/-- A report if this slug was seen before. -/
def repeatedSlug (index : Nat) (seen : List String) : Option String → List SettingsFlaw
  | none => []
  | some slug => if seen.contains slug then [.duplicateSlug index slug] else []

/-- What is wrong with custom modes, given the index of the first and the slugs seen before. -/
def ofModeItems (index : Nat) (seen : List String) : List Json → Except Failure (List SettingsFlaw)
  | [] => .ok []
  | item :: rest => do
    let flaws ← Mode.flaws item
    let slug := slugText? item
    return flaws.map (.badMode index) ++ repeatedSlug index seen slug
      ++ (← ofModeItems (index + 1) (slug.toList ++ seen) rest)

/-- What is wrong with the custom modes. -/
def ofModes : Option Json → Except Failure (List SettingsFlaw)
  | none => .ok []
  | some (.arr items) => ofModeItems 0 [] items
  | some _ => .ok [.modesNotList]

/-- What is wrong with one text of an override. -/
def ofPromptText (slug : String) (fields : Fields Json) (key : String) : List SettingsFlaw :=
  match fields.lookup key with
  | none => []
  | some value => if value.isStr then [] else [.promptNotText slug key]

/-- What is wrong with an override. -/
def ofPrompt (slug : String) : Json → List SettingsFlaw
  | .obj fields => ["roleDefinition", "customInstructions"].flatMap (ofPromptText slug fields)
  | _ => [.promptNotObject slug]

/-- What is wrong with the prompt overrides. -/
def ofPrompts : Option Json → List SettingsFlaw
  | none => []
  | some (.obj entries) => entries.flatMap fun e => ofPrompt e.1 e.2
  | some _ => [.promptsNotObject]

/-- What is wrong with the flag of an experiment. -/
def ofExperiment (name : String) : Json → List SettingsFlaw
  | .bool _ => []
  | _ => [.experimentNotBool name]

/-- What is wrong with the flags of experiments. -/
def ofExperiments : Option Json → List SettingsFlaw
  | none => []
  | some (.obj entries) => entries.flatMap fun e => ofExperiment e.1 e.2
  | some _ => [.experimentsNotObject]

/-- Everything that is wrong with an object. -/
def ofFields (fields : Fields Json) : Except Failure (List SettingsFlaw) := do
  let modeFlaws ← ofModes (fields.lookup "customModes")
  return ofVersion (fields.lookup "version") ++ ofMode (fields.lookup "mode") ++ modeFlaws
    ++ ofPrompts (fields.lookup "customModePrompts") ++ ofExperiments (fields.lookup "experiments")

end SettingsFlaw

namespace Settings

/-- Everything that is wrong with the data of settings. -/
def flaws : Json → Except Failure (List SettingsFlaw)
  | .obj fields => SettingsFlaw.ofFields fields
  | _ => .ok [.notObject]

/-- The names among the flags that name no experiment. -/
def unknownExperiments : Json → List String
  | .obj fields =>
    match fields.lookup "experiments" with
    | some (.obj entries) => (Fields.names entries).filter fun name => !experimentIds.contains name
    | _ => []
  | _ => []

/-- Warns of flags that name no experiment. -/
def noteUnknown : List String → Report Unit
  | [] => return ()
  | name :: rest => do
    Report.note .warning ("Unknown experiment in state: " ++ name)
    noteUnknown rest

/-- Everything that is wrong with the data of settings, with a warning for each flag that names no
experiment. -/
def validate (data : Json) : Report (List SettingsFlaw) := do
  let found ← flaws data
  noteUnknown (unknownExperiments data)
  return found

end ModePolicy.Settings
