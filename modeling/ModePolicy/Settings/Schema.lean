import ModePolicy.Mode.Schema

/-!
The schema of saved settings.
-/

namespace ModePolicy

/-- The schema of settings. -/
def settingsSchema : Json :=
  .schemaOf "object" [
    ("required", .ofTexts ["version"]),
    ("properties", .obj [
      ("version", .schemaOf "string" []),
      ("mode", .schemaOf "string" []),
      ("customModes", .schemaOf "array" [("items", .schemaOf "object" [])]),
      ("customModePrompts", .schemaOf "object" [
        ("additionalProperties", .schemaOf "object" [
          ("properties", .obj [
            ("roleDefinition", .schemaOf "string" []),
            ("customInstructions", .schemaOf "string" [])])])]),
      ("experiments", .schemaOf "object" [("additionalProperties", .schemaOf "boolean" [])])])]

end ModePolicy
