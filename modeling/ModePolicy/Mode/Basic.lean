import ModePolicy.Tool.Group

/-!
Modes: the role and the instructions that an assistant works under, and the tool groups it may use.

A mode is built from data of any quality before it is validated, so its texts are values, and null
stands for a text that is not set. Its groups are well-formed from the start: each entry grants a
group, outright or under options.
-/

namespace ModePolicy

/-- What restricts the grant of a group. -/
structure GroupOptions where
  /-- The expression that the path of an edited file must match. -/
  fileRegex : Json := .null
  description : Json := .null
  deriving Inhabited

/-- The grant of a group. -/
inductive GroupEntry where
  | simple (group : ToolGroup)
  | restricted (group : ToolGroup) (options : GroupOptions)
  deriving Inhabited

namespace GroupEntry

/-- The group granted. -/
def group : GroupEntry → ToolGroup
  | .simple g => g
  | .restricted g _ => g

/-- The options of a restricted grant. -/
def options? : GroupEntry → Option GroupOptions
  | .simple _ => none
  | .restricted _ o => some o

end GroupEntry

/-- An operating mode. -/
structure Mode where
  slug : Json
  name : Json
  role : Json
  /-- The groups granted; of entries that hold one tool, the first decides. -/
  groups : List GroupEntry := []
  instructions : Json := .null
  deriving Inhabited

/-- Texts that take the place of a mode's own. -/
structure PromptOverride where
  role : Json := .null
  instructions : Json := .null
  deriving Inhabited

/-- A field, or nothing if its value is not set. -/
def optionalField (name : String) (value : Json) : List (String × Json) :=
  if value.isNull then [] else [(name, value)]

namespace GroupOptions

/-- The options as data; what is not set is left out. -/
def toJson (o : GroupOptions) : Json :=
  .obj (optionalField "fileRegex" o.fileRegex ++ optionalField "description" o.description)

/-- Equal in every option. -/
def same (o p : GroupOptions) : Bool :=
  o.fileRegex.same p.fileRegex && o.description.same p.description

end GroupOptions

namespace GroupEntry

/-- The grant as data: a name, or a name and options. -/
def toJson : GroupEntry → Json
  | .simple g => .str g.name
  | .restricted g o => .arr [.str g.name, o.toJson]

/-- Equal grants. -/
def same : GroupEntry → GroupEntry → Bool
  | .simple g, .simple h => g == h
  | .restricted g o, .restricted h p => g == h && o.same p
  | _, _ => false

end GroupEntry

/-- Two lists agree, item by item. -/
def sameList {α : Type} (same : α → α → Bool) : List α → List α → Bool
  | [], [] => true
  | x :: xs, y :: ys => same x y && sameList same xs ys
  | _, _ => false

namespace Mode

/-- The mode as data; instructions that are not set are left out. -/
def toJson (m : Mode) : Json :=
  .obj ([("slug", m.slug), ("name", m.name), ("roleDefinition", m.role),
    ("groups", .arr (m.groups.map (·.toJson)))]
      ++ optionalField "customInstructions" m.instructions)

/-- Equal in every field. -/
def same (m n : Mode) : Bool :=
  m.slug.same n.slug && m.name.same n.name && m.role.same n.role
    && sameList GroupEntry.same m.groups n.groups
    && m.instructions.same n.instructions

/-- The mode has this identifier. -/
def hasSlug (m : Mode) (slug : Json) : Bool := m.slug.same slug

/-- The tools that the mode's groups grant, and those that every mode has. -/
def tools (m : Mode) : List String := toolsOfGroups (m.groups.map (·.group))

end Mode

namespace PromptOverride

/-- The override as data; what is not set is left out. -/
def toJson (p : PromptOverride) : Json :=
  .obj (optionalField "roleDefinition" p.role ++ optionalField "customInstructions" p.instructions)

/-- Equal in both texts. -/
def same (p q : PromptOverride) : Bool := p.role.same q.role && p.instructions.same q.instructions

end PromptOverride

end ModePolicy
