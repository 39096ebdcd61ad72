import ModePolicy.Mode.Schema

/-!
Definitions of the tools that are offered to a model.
-/

namespace ModePolicy

/-- The definition of a tool. -/
structure ToolDefinition where
  name : Json
  description : Json := .str ""
  parameters : Json := .obj []
  group : Option ToolGroup := none
  enabled : Bool := true
  deriving Inhabited

namespace ToolDefinition

/-- The definition in data of the form `{function: {name, description, parameters}}`. The group is
that of the name. -/
def ofFunctionFormat (data : Json) : Except Misuse ToolDefinition := do
  let function ← data.fieldD "function" (.obj [])
  let name ← function.fieldD "name" (.str "")
  let description ← function.fieldD "description" (.str "")
  let parameters ← function.fieldD "parameters" (.obj [])
  return { name, description, parameters, group := ToolGroup.ofTool? name }

/-- The definition as data of the form `{type, function: {name, description, parameters}}`. -/
def toFunctionFormat (d : ToolDefinition) : Json :=
  .obj [
    ("type", .str "function"),
    ("function", .obj [
      ("name", d.name),
      ("description", d.description),
      ("parameters", d.parameters)])]

/-- The definition of a tool that an external server offers. -/
def ofServerTool (data : Json) : Except Misuse ToolDefinition := do
  let name ← data.fieldD "name" (.str "")
  let description ← data.fieldD "description" (.str "")
  let parameters ← data.fieldD "inputSchema" (.obj [])
  return { name, description, parameters, group := some .mcp }

end ToolDefinition

/-- What a review can be about. -/
def reviewFocusValues : List String :=
  ["design", "implementation", "security", "performance", "general"]

/-- A described parameter. -/
def describedSchema (type description : String) (constraints : Fields Json) : Json :=
  .schemaOf type (("description", .str description) :: constraints)

/-- The tool that asks for a review. -/
def reviewerTool : ToolDefinition where
  name := .str "reviewer"
  description := .str ("Conducts code or design reviews. The context file describes the intent, " ++
    "the material under review and the questions to answer; feedback is written to the output " ++
    "file.")
  parameters := .schemaOf "object" [
    ("required", .ofTexts ["context_file_path", "output_file_path"]),
    ("properties", .obj [
      ("context_file_path", describedSchema "string"
        "Path to the file containing context for the review" []),
      ("difficulty", describedSchema "integer"
        "Rating from 1-10 of the complexity of what is being reviewed"
        [("minimum", .int 1), ("maximum", .int 10)]),
      ("review_focus", describedSchema "string" "Area to focus the review on"
        [("enum", .ofTexts reviewFocusValues)]),
      ("output_file_path", describedSchema "string"
        "Path where the review feedback will be written" [])])]
  group := some .review

end ModePolicy
