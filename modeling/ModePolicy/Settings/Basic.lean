import ModePolicy.Json.Literal
import ModePolicy.Json.Printer
import ModePolicy.Mode.Prompts

/-!
Settings: the current mode, custom modes, prompt overrides and flags of experiments; and their saved
form.
-/

namespace ModePolicy

/-- The version of the saved form. -/
def settingsVersion : String := "1.0"

/-- Flags of experiments, each under its name. Any value can be a name, but only texts name
experiments. -/
abbrev FlagTable := List (Json × Json)

namespace FlagTable

/-- Sets a flag: a name that is present keeps its place. -/
def set (name value : Json) : FlagTable → FlagTable
  | [] => [(name, value)]
  | flag :: rest =>
    if flag.1.same name then (flag.1, value) :: rest else flag :: set name value rest

/-- The flags that pairs set, one after another. -/
def ofPairs (pairs : List (Json × Json)) : FlagTable :=
  pairs.foldl (fun flags pair => set pair.1 pair.2 flags) []

/-- The flags in the fields of an object. -/
def ofFields (fields : Fields Json) : FlagTable := fields.map fun field => (.str field.1, field.2)

/-- The flags as fields of an object. A name that is no text is written as one, so two fields can
have the same name. -/
def toFields (flags : FlagTable) : Fields Json := flags.map fun flag => (flag.1.keyText, flag.2)

/-- The tables have equal flags under equal names, in any order. -/
def same (flags others : FlagTable) : Bool :=
  flags.length == others.length && flags.all fun flag =>
    match others.find? (·.1.same flag.1) with
    | some other => flag.2.same other.2
    | none => false

end FlagTable

/-- The settings of a user. -/
structure Settings where
  mode : Json := Mode.fallbackSlug
  customModes : List Mode := []
  prompts : Fields PromptOverride := []
  experiments : FlagTable := []
  deriving Inhabited

/-- The values of a table, each made into another. -/
def Fields.mapValues {α β : Type} (f : α → β) (fields : Fields α) : Fields β :=
  fields.map fun p => (p.1, f p.2)

/-- Every entry of the first table has an equal one in the second, and they have the same size. -/
def Fields.same {α : Type} (same : α → α → Bool) (xs ys : Fields α) : Bool :=
  xs.length == ys.length && xs.all fun x =>
    match ys.lookup x.1 with
    | some y => same x.2 y
    | none => false

namespace Settings

/-- The settings as data. -/
def toJson (s : Settings) : Json :=
  .obj [
    ("version", .str settingsVersion),
    ("mode", s.mode),
    ("customModes", .arr (s.customModes.map (·.toJson))),
    ("customModePrompts", .obj (s.prompts.mapValues (·.toJson))),
    ("experiments", .obj s.experiments.toFields)]

/-- The text that settings are saved as. -/
def saved (s : Settings) : String := s.toJson.pretty

/-- Equal in every part; the order of overrides and of flags does not matter. -/
def same (s t : Settings) : Bool :=
  s.mode.same t.mode && sameList Mode.same s.customModes t.customModes
    && s.prompts.same PromptOverride.same t.prompts && s.experiments.same t.experiments

end Settings

end ModePolicy
