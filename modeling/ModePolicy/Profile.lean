import ModePolicy.Mode.Effective
import ModePolicy.Mode.Validation
import ModePolicy.Permission.Check
import ModePolicy.Settings.Basic

/-!
Profiles: the modes, prompt overrides and experiments of one user, with operations that change the
modes and questions about them.
-/

namespace ModePolicy

/-- The modes, prompt overrides and experiments of a user. -/
structure Profile where
  customModes : List Mode := []
  prompts : Fields PromptOverride := []
  experiments : Fields Json := []
  /-- The slug that is used when none is given or the given one is unknown. -/
  defaultSlug : Json := Mode.fallbackSlug
  deriving Inhabited

namespace Profile

/-- The profile that settings describe. -/
def ofSettings (s : Settings) : Profile :=
  { customModes := s.customModes, prompts := s.prompts, experiments := s.experiments.toFields }

/-- Adds a custom mode, in the place of the first one of its slug if there is one. It must be
without flaws. -/
def register (p : Profile) (m : Mode) : Report Profile := do
  let flaws ← Mode.flaws m.toJson
  if !flaws.isEmpty then Report.fail (.badMode (.flawed flaws))
  Report.note .debug ("Registered mode: " ++ m.slug.plain)
  return { p with customModes := m.place p.customModes }

/-- The custom modes of other slugs. -/
def without (slug : Json) (modes : List Mode) : List Mode := modes.filter fun m => !m.hasSlug slug

/-- Removes the custom modes of a slug. The answer says whether there were any. -/
def unregister (p : Profile) (slug : Json) : Report (Profile × Bool) :=
  let rest := without slug p.customModes
  if rest.length == p.customModes.length then return (p, false)
  else do
    Report.note .debug ("Unregistered mode: " ++ slug.plain)
    return ({ p with customModes := rest }, true)

/-- The mode of a slug, or the default mode with a warning. -/
def get (p : Profile) (slug : Json) : Report Mode :=
  match Mode.find? slug p.customModes with
  | some m => return m
  | none => do
    Report.note .warning
      ("Mode '" ++ slug.plain ++ "' not found, falling back to '" ++ p.defaultSlug.plain ++ "'")
    Mode.find p.defaultSlug p.customModes

/-- The mode of a slug, which must exist. -/
def find (p : Profile) (slug : Json) : Except Failure Mode := Mode.find slug p.customModes

/-- There is a mode of this slug. -/
def hasMode (p : Profile) (slug : Json) : Bool := (Mode.find? slug p.customModes).isSome

/-- A custom mode has this slug. -/
def isCustom (p : Profile) (slug : Json) : Bool := Mode.isCustom slug p.customModes

/-- All modes. -/
def modes (p : Profile) : List Mode := Mode.resolved p.customModes

/-- All modes, with the overrides for their slugs. -/
def modesWithPrompts (p : Profile) : Except Misuse (List Mode) :=
  Mode.resolvedWithPrompts p.customModes (.read p.prompts)

/-- The tools of the mode of a slug. -/
def toolsFor (p : Profile) (slug : Json) : Except Failure (List String) :=
  return (← p.find slug).tools

/-- The use of a tool in a mode of this profile, in the default mode if no slug is given. -/
def toolUse (p : Profile) (tool slug : Json) (call : CallData) (requirements : Requirements) :
    ToolUse :=
  { tool, slug := slug.orElse p.defaultSlug, call, requirements, experiments := .obj p.experiments }

/-- The decision on the use of a tool. -/
def check (p : Profile) (tool slug : Json) (call : CallData) (requirements : Requirements) :
    Report Decision :=
  (p.toolUse tool slug call requirements).check p.customModes

/-- Whether a tool may be used; a violation stops with a failure. -/
def isToolAllowed (p : Profile) (tool slug : Json) (call : CallData) (requirements : Requirements) :
    Report Bool :=
  (p.toolUse tool slug call requirements).isAllowed p.customModes

/-- The mode that a task works under. -/
def effective (p : Profile) (slug : Json) (context : Option ModeContext) (aggregate : Aggregator) :
    Report Mode :=
  Mode.effective slug p.customModes (.read p.prompts) context aggregate

end Profile

end ModePolicy
