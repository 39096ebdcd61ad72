import ModePolicy.Mode.Flaw

/-!
The schema of a mode's data, in the vocabulary of JSON Schema.
-/

namespace ModePolicy

/-- The regular expression of slugs. -/
def slugPattern : String := "^[a-zA-Z0-9-]+$"

/-- A list of texts as data. -/
def Json.ofTexts (texts : List String) : Json := .arr (texts.map .str)

/-- The schema of values of a type, with further constraints. -/
def Json.schemaOf (type : String) (constraints : Fields Json) : Json :=
  .obj (("type", .str type) :: constraints)

/-- The schema of the name of a group. -/
def ToolGroup.schema : Json := .schemaOf "string" [("enum", .ofTexts sortedNames)]

/-- The schema of a restricted grant. -/
def restrictedGrantSchema : Json :=
  .schemaOf "array" [
    ("minItems", .int 2),
    ("maxItems", .int 2),
    ("prefixItems", .arr [
      ToolGroup.schema,
      .schemaOf "object" [
        ("properties", .obj [
          ("fileRegex", .schemaOf "string" []),
          ("description", .schemaOf "string" [])])]])]

/-- The schema of a mode. -/
def modeSchema : Json :=
  .schemaOf "object" [
    ("required", .ofTexts (ModeField.all.map (·.text))),
    ("properties", .obj [
      ("slug", .schemaOf "string"
        [("pattern", .str slugPattern), ("minLength", .int 1), ("maxLength", .int maxSlugLength)]),
      ("name", .schemaOf "string" [("minLength", .int 1), ("maxLength", .int maxNameLength)]),
      ("roleDefinition", .schemaOf "string" [("minLength", .int 1)]),
      ("customInstructions", .schemaOf "string" []),
      ("groups", .schemaOf "array"
        [("items", .obj [("oneOf", .arr [ToolGroup.schema, restrictedGrantSchema])])])]),
    ("additionalProperties", .bool false)]

end ModePolicy
