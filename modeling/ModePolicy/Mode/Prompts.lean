import ModePolicy.Mode.Lookup
import ModePolicy.Mode.Reading

/-!
Prompt overrides by slug, and the list of modes with overrides applied.

An override replaces texts of a mode and nothing else: slug, name and groups stay.
-/

namespace ModePolicy

/-- Prompt overrides by slug. -/
inductive PromptTable where
  | read (overrides : Fields PromptOverride)
  /-- Overrides as data, each read when it is asked for. -/
  | data (value : Json)
  deriving Inhabited

/-- The override in a table of data: null stands for none. -/
def PromptTable.ofEntry : Option Json → Except Misuse (Option PromptOverride)
  | none => .ok none
  | some .null => .ok none
  | some value => some <$> PromptOverride.ofJson value

/-- The override for a slug. Data that are absent or empty hold none, and other data that are no
object cannot be asked. -/
def PromptTable.find? (slug : Json) : PromptTable → Except Misuse (Option PromptOverride)
  | .read overrides => Json.entry? overrides slug
  | .data value =>
    if value.truthy then
      match value with
      | .obj fields => Json.entry? fields slug >>= ofEntry
      | _ => .error .fieldless
    else Json.entry? ([] : Fields Json) slug >>= ofEntry

/-- The value itself unless it is null. -/
def Json.unlessNull (value other : Json) : Json := if value.isNull then other else value

/-- The mode with the texts that an override sets. -/
def Mode.withPrompt (m : Mode) : Option PromptOverride → Mode
  | none => m
  | some p =>
    { m with
      role := p.role.unlessNull m.role, instructions := p.instructions.unlessNull m.instructions }

/-- All modes, with the overrides for their slugs. -/
def Mode.resolvedWithPrompts (custom : List Mode) (prompts : PromptTable) :
    Except Misuse (List Mode) :=
  (resolved custom).mapM fun m => return m.withPrompt (← prompts.find? m.slug)

end ModePolicy
