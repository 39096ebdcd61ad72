import ModePolicy.Settings.Basic
import ModePolicy.Settings.Validation

/-!
Settings read from data and from text.
-/

namespace ModePolicy

/-- A mode of a list, or what is wrong with it, given its index and the slugs of the modes before
it. -/
def ModeListFlaw.readItem (index : Nat) (seen : List Json) (item : Json) :
    Except Failure (Except (List ModeListFlaw) Mode) := do
  match ← Mode.flaws item with
  | [] =>
    let m ← Mode.ofJson item
    return if seen.any (·.same m.slug) then .error [.duplicateSlug index m.slug] else .ok m
  | flaws => return .error (flaws.map (.flawed index))

/-- The modes of a list and what is wrong with the others, given the index of the first item and the
slugs seen. -/
def ModeListFlaw.readItems (index : Nat) (seen : List Json) :
    List Json → Except Failure (List Mode × List ModeListFlaw)
  | [] => .ok ([], [])
  | item :: rest => do
    match ← readItem index seen item with
    | .ok m =>
      let (modes, flaws) ← readItems (index + 1) (m.slug :: seen) rest
      return (m :: modes, flaws)
    | .error found =>
      let (modes, flaws) ← readItems (index + 1) seen rest
      return (modes, found ++ flaws)

/-- The custom modes in a list of data; all of them must be without flaws. -/
def Mode.readCustom (data : Json) : Report (List Mode) := do
  let (modes, flaws) ← ModeListFlaw.readItems 0 [] (← data.elements)
  if !flaws.isEmpty then Report.fail (.badMode (.flawedList flaws))
  Report.note .debug ("Loaded " ++ toString modes.length ++ " custom modes")
  return modes

namespace Settings

/-- The two members of a value that stands for a pair. -/
def readPair (index : Nat) (value : Json) : Except Failure (Json × Json) := do
  match ← value.elements with
  | [key, member] => if key.isKey then return (key, member) else throw (.misuse .unsuitable)
  | members => throw (.badValue (.pairLength index members.length))

/-- The pairs of a list, given the index of the first. -/
def readPairs (index : Nat) : List Json → Except Failure (List (Json × Json))
  | [] => .ok []
  | item :: rest => return (← readPair index item) :: (← readPairs (index + 1) rest)

/-- A table of flags: an object, or anything that can be gone through and gives pairs. -/
def readFlags : Json → Except Failure FlagTable
  | .obj fields => .ok (.ofFields fields)
  | value => do return .ofPairs (← readPairs 0 (← value.elements))

/-- The entries of an object. -/
def entries : Json → Except Misuse (Fields Json)
  | .obj fields => .ok fields
  | _ => .error .fieldless

/-- The prompt overrides of a table. -/
def readPrompts : Fields Json → Except Misuse (Fields PromptOverride)
  | [] => .ok []
  | (slug, value) :: rest => return (slug, ← PromptOverride.ofJson value) :: (← readPrompts rest)

/-- Settings from data. -/
def ofJson (data : Json) : Report Settings := do
  let mode ← data.fieldD "mode" Mode.fallbackSlug
  let customModes ← Mode.readCustom (← data.fieldD "customModes" (.arr []))
  let prompts ← readPrompts (← entries (← data.fieldD "customModePrompts" (.obj [])))
  let experiments ← readFlags (← data.fieldD "experiments" (.obj []))
  return { mode, customModes, prompts, experiments }

/-- The data in the text of saved settings. -/
def parseText (text : String) : Except Failure Json :=
  match Json.parse text with
  | .ok data => .ok data
  | .error why => .error (.badSettings (.malformed why))

/-- Settings from the text they are saved as. -/
def ofText (text : String) : Report Settings := do
  let data ← parseText text
  let flaws ← validate data
  if !flaws.isEmpty then Report.fail (.badSettings (.flawed flaws))
  ofJson data

end Settings

end ModePolicy
