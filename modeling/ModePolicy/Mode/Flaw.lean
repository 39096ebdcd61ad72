import ModePolicy.Json.Literal
import ModePolicy.Pattern.Error
import ModePolicy.Tool.Group

/-!
What can be wrong with the data of modes, and how it is worded.
-/

namespace ModePolicy

/-- Why a value grants no group. -/
inductive EntryError where
  | unknownGroup (value : Json)
  | badOptions (group : ToolGroup) (options : Json)
  /-- The value is neither a name nor a name with options. -/
  | malformed (value : Json)
  deriving Inhabited

/-- Texts with a separator between them. -/
def joinTexts (sep : String) (texts : List String) : String := sep.intercalate texts

/-- The wording of an entry error. -/
def EntryError.message : EntryError → String
  | .unknownGroup value =>
    "Unknown tool group '" ++ value.plain ++ "'. Valid values are: "
      ++ joinTexts ", " ToolGroup.sortedNames
  | .badOptions group options =>
    "Options of group '" ++ group.name ++ "' must be an object, got " ++ options.typeName
  | .malformed value => "Invalid group entry: " ++ value.literal

/-- The fields that every mode has. -/
inductive ModeField where
  | slug
  | name
  | role
  | groups
  deriving DecidableEq, Repr

namespace ModeField

/-- The fields, in order. -/
def all : List ModeField := [.slug, .name, .role, .groups]

/-- The name of a field. -/
def text : ModeField → String
  | .slug => "slug"
  | .name => "name"
  | .role => "roleDefinition"
  | .groups => "groups"

/-- The names under which a field is found. -/
def keys : ModeField → List String
  | .slug => ["slug"]
  | .name => ["name"]
  | .role => ["roleDefinition", "role_definition"]
  | .groups => ["groups"]

/-- The report of a missing field. -/
def missingMessage (f : ModeField) : String := "Missing required field: '" ++ f.text ++ "'"

end ModeField

/-- The greatest length of a slug. -/
def maxSlugLength : Nat := 50

/-- The greatest length of a name. -/
def maxNameLength : Nat := 100

/-- What is wrong with the data of one mode. -/
inductive ModeFlaw where
  | notObject
  | missing (field : ModeField)
  | slugNotText
  | slugEmpty
  | slugTooLong
  /-- The slug holds other characters than letters, digits and hyphens. -/
  | slugCharacters
  | nameNotText
  | nameEmpty
  | nameTooLong
  | roleNotText
  | roleEmpty
  | instructionsNotText
  | groupsNotList
  | badEntry (index : Nat) (why : EntryError)
  | duplicateGroup (index : Nat) (group : ToolGroup)
  | fileRegexNotText (index : Nat)
  | badFileRegex (index : Nat) (why : Pattern.SyntaxError)
  | descriptionNotText (index : Nat)
  | unknownFields (names : List String)
  deriving Inhabited

/-- The report of a flaw. -/
def ModeFlaw.message : ModeFlaw → String
  | .notObject => "Configuration must be a dictionary"
  | .missing field => field.missingMessage
  | .slugNotText => "Field 'slug' must be a string"
  | .slugEmpty => "Field 'slug' must not be empty"
  | .slugTooLong => "Field 'slug' must be at most " ++ toString maxSlugLength ++ " characters"
  | .slugCharacters => "Field 'slug' must contain only letters, numbers, and dashes"
  | .nameNotText => "Field 'name' must be a string"
  | .nameEmpty => "Field 'name' must not be empty"
  | .nameTooLong => "Field 'name' must be at most " ++ toString maxNameLength ++ " characters"
  | .roleNotText => "Field 'roleDefinition' must be a string"
  | .roleEmpty => "Field 'roleDefinition' must not be empty"
  | .instructionsNotText => "Field 'customInstructions' must be a string"
  | .groupsNotList => "Field 'groups' must be an array"
  | .badEntry index why => "Field 'groups[" ++ toString index ++ "]': " ++ why.message
  | .duplicateGroup index group =>
    "Field 'groups[" ++ toString index ++ "]': duplicate group '" ++ group.name ++ "'"
  | .fileRegexNotText index => "Field 'groups[" ++ toString index ++ "].fileRegex' must be a string"
  | .badFileRegex index why =>
    "Field 'groups[" ++ toString index ++ "].fileRegex' is not a valid regular expression: "
      ++ why.message
  | .descriptionNotText index =>
    "Field 'groups[" ++ toString index ++ "].description' must be a string"
  | .unknownFields names => "Unknown fields: " ++ joinTexts ", " names

/-- What is wrong with a list of modes. -/
inductive ModeListFlaw where
  | flawed (index : Nat) (flaw : ModeFlaw)
  | duplicateSlug (index : Nat) (slug : Json)
  deriving Inhabited

/-- The report of a flaw in a list. -/
def ModeListFlaw.message : ModeListFlaw → String
  | .flawed index flaw => "Mode " ++ toString index ++ ": " ++ flaw.message
  | .duplicateSlug index slug =>
    "Mode " ++ toString index ++ ": duplicate slug '" ++ slug.plain ++ "'"

/-- Why no mode is made or accepted. -/
inductive ModeRejection where
  | entry (why : EntryError)
  | missing (fields : List ModeField)
  | flawed (flaws : List ModeFlaw)
  | flawedList (flaws : List ModeListFlaw)
  deriving Inhabited

namespace ModeRejection

/-- The single reports of a rejection. -/
def details : ModeRejection → List String
  | .entry _ => []
  | .missing fields => fields.map (·.missingMessage)
  | .flawed flaws => flaws.map (·.message)
  | .flawedList flaws => flaws.map (·.message)

/-- The wording of a rejection. -/
def message : ModeRejection → String
  | .entry why => why.message
  | .missing fields => "Missing required field(s): " ++ joinTexts ", " (fields.map (·.text))
  | .flawed flaws => "Invalid mode configuration: " ++ joinTexts "; " (flaws.map (·.message))
  | .flawedList flaws => "Invalid custom modes: " ++ joinTexts "; " (flaws.map (·.message))

end ModeRejection

end ModePolicy
