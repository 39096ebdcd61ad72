import ModePolicy.Mode.Prompts

/-!
The mode that a task works under: the mode asked for, with its override and with instructions from
its surroundings.
-/

namespace ModePolicy

/-- What a mode's instructions are extended with. -/
structure ModeContext where
  /-- The directory of the task; instructions are extended only if there is one. -/
  workspace : Json := .null
  globalInstructions : Json := .str ""
  language : Json := .null
  deriving Inhabited

/-- What instructions are put together from. -/
structure AggregationRequest where
  instructions : Json
  globalInstructions : Json
  workspace : Json
  slug : Json
  language : Json
  deriving Inhabited

/-- A way to put instructions together. -/
abbrev Aggregator := AggregationRequest → Report Json

/-- The mode of a slug, or the default mode with a warning. -/
def Mode.findOrFallback (slug : Json) (custom : List Mode) : Report Mode :=
  match find? slug custom with
  | some m => return m
  | none => do
    Report.note .warning
      ("Mode '" ++ slug.plain ++ "' not found, falling back to '" ++ fallbackSlug.plain ++ "'")
    return fallback

/-- The instructions of a mode, extended if the context has a directory. -/
def extendInstructions (aggregate : Aggregator) (slug instructions : Json) :
    Option ModeContext → Report Json
  | none => return instructions
  | some context =>
    if context.workspace.truthy then
      aggregate
        { instructions
          globalInstructions := context.globalInstructions.orElse (.str "")
          workspace := .str context.workspace.plain
          slug
          language := context.language }
    else return instructions

/-- The mode that a task works under. A text of the override counts if it is not empty. -/
def Mode.effective (slug : Json) (custom : List Mode) (prompts : PromptTable)
    (context : Option ModeContext)
    (aggregate : Aggregator) : Report Mode := do
  let base ← findOrFallback slug custom
  let found ← prompts.find? slug
  let prompt := found.getD {}
  let instructions := (prompt.instructions.orElse base.instructions).orElse (.str "")
  let extended ← extendInstructions aggregate slug instructions context
  return { base with role := prompt.role.orElse base.role, instructions := extended }

end ModePolicy
