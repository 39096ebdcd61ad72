import ModePolicy.Json.Reader
import ModePolicy.Mode.Flaw

/-!
What can be wrong with saved settings, and how it is worded.
-/

namespace ModePolicy

/-- What is wrong with the data of settings. -/
inductive SettingsFlaw where
  | notObject
  | missingVersion
  | versionNotText
  | modeNotText
  | modesNotList
  | badMode (index : Nat) (flaw : ModeFlaw)
  | duplicateSlug (index : Nat) (slug : String)
  | promptsNotObject
  | promptNotObject (slug : String)
  | promptNotText (slug key : String)
  | experimentsNotObject
  | experimentNotBool (name : String)
  deriving Inhabited

/-- The report of a flaw. -/
def SettingsFlaw.message : SettingsFlaw → String
  | .notObject => "State must be a dictionary"
  | .missingVersion => "Missing required field: 'version'"
  | .versionNotText => "Field 'version' must be a string"
  | .modeNotText => "Field 'mode' must be a string"
  | .modesNotList => "Field 'customModes' must be an array"
  | .badMode index flaw => "customModes[" ++ toString index ++ "]: " ++ flaw.message
  | .duplicateSlug index slug =>
    "customModes[" ++ toString index ++ "]: duplicate slug '" ++ slug ++ "'"
  | .promptsNotObject => "Field 'customModePrompts' must be an object"
  | .promptNotObject slug => "Prompt override '" ++ slug ++ "' must be an object"
  | .promptNotText slug key => "Prompt override '" ++ slug ++ "." ++ key ++ "' must be a string"
  | .experimentsNotObject => "Field 'experiments' must be an object"
  | .experimentNotBool name => "Experiment '" ++ name ++ "' must be a boolean"

/-- A report with the place it is about, as far as that is known; line and column are given in
words. -/
def withPlace (text : String) (line column : Option String) : String :=
  match line, column with
  | some l, some c => text ++ " (line " ++ l ++ ", column " ++ c ++ ")"
  | some l, none => text ++ " (line " ++ l ++ ")"
  | none, _ => text

/-- Why a text holds no settings. -/
inductive SettingsRejection where
  | malformed (why : Json.ReadError)
  | flawed (flaws : List SettingsFlaw)
  deriving Inhabited

namespace SettingsRejection

/-- The place in the text, if it is no JSON. -/
def place? : SettingsRejection → Option Text.Place
  | .malformed why => some why.place
  | .flawed _ => none

/-- The single reports of a rejection. -/
def details : SettingsRejection → List String
  | .malformed _ => []
  | .flawed flaws => flaws.map (·.message)

/-- The wording of a rejection. -/
def message (r : SettingsRejection) : String :=
  let text := match r with
    | .malformed why => "Invalid JSON: " ++ why.cause.message
    | .flawed flaws => "State validation failed: " ++ joinTexts "; " (flaws.map (·.message))
  withPlace text (r.place?.map fun p => toString p.line) (r.place?.map fun p => toString p.column)

end SettingsRejection

end ModePolicy
