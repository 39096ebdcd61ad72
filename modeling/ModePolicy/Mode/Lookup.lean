import ModePolicy.Mode.Builtin
import ModePolicy.Report

/-!
Finding modes among custom and built-in ones.

Custom modes come first: one with the slug of a built-in mode hides it. The full list keeps the
place of the mode that is hidden, and puts new modes at the end.
-/

namespace ModePolicy.Mode

/-- The mode of this slug: the first custom mode that has it, else the built-in one. -/
def find? (slug : Json) (custom : List Mode) : Option Mode :=
  match custom.find? (·.hasSlug slug) with
  | some m => some m
  | none => builtins.find? (·.hasSlug slug)

/-- The mode of this slug, which must exist. -/
def find (slug : Json) (custom : List Mode) : Except Failure Mode :=
  match find? slug custom with
  | some m => .ok m
  | none => .error (.modeNotFound slug)

/-- The built-in mode of this slug. -/
def builtin? (slug : Json) : Option Mode := builtins.find? (·.hasSlug slug)

/-- A custom mode has this slug. -/
def isCustom (slug : Json) (custom : List Mode) : Bool := custom.any (·.hasSlug slug)

/-- Puts a mode in the place of the first one of its slug, or at the end. -/
def place (new : Mode) : List Mode → List Mode
  | [] => [new]
  | m :: rest => if m.hasSlug new.slug then new :: rest else m :: place new rest

/-- All modes: the built-in ones, with the custom ones put in their places in order. -/
def resolved (custom : List Mode) : List Mode :=
  custom.foldl (fun modes new => place new modes) builtins

/-- A text of the mode of this slug, or of an empty text with a warning if there is no such mode. -/
def textOf (text : Mode → Json) (slug : Json) (custom : List Mode) : Report Json :=
  match find? slug custom with
  | some m => return text m
  | none => do
    Report.note .warning ("No mode found for slug: " ++ slug.plain)
    return .str ""

/-- The role of the mode of this slug. -/
def roleOf : Json → List Mode → Report Json := textOf (·.role)

/-- The instructions of the mode of this slug; empty if they are not set. -/
def instructionsOf : Json → List Mode → Report Json := textOf (·.instructions.orElse (.str ""))

end ModePolicy.Mode
