import ModePolicy.Mode.Reading
import ModePolicy.Pattern.Parser
import ModePolicy.Text.Sorted

/-!
Validation of the data of a mode.

`Mode.flaws` lists everything that is wrong. Only an expression that cannot be represented at all
stops it.
-/

namespace ModePolicy

/-- A character of a slug. -/
def isSlugChar (c : Char) : Bool := c.isAlphanum || c == '-'

/-- All names under which a field of a mode is found. -/
def knownModeFields : List String :=
  ["slug", "name", "roleDefinition", "role_definition", "groups", "customInstructions",
    "custom_instructions"]

namespace ModeFlaw

/-- What is wrong with a slug. -/
def ofSlug : Json → List ModeFlaw
  | .str s =>
    if s.isEmpty then [.slugEmpty]
    else if s.length > maxSlugLength then [.slugTooLong]
    else if !s.toList.all isSlugChar then [.slugCharacters]
    else []
  | _ => [.slugNotText]

/-- What is wrong with a name. -/
def ofName : Json → List ModeFlaw
  | .str s =>
    if s.isEmpty then [.nameEmpty]
    else if s.length > maxNameLength then [.nameTooLong]
    else []
  | _ => [.nameNotText]

/-- What is wrong with a role. -/
def ofRole : Json → List ModeFlaw
  | .str s => if s.isEmpty then [.roleEmpty] else []
  | _ => [.roleNotText]

/-- What is wrong with instructions. -/
def ofInstructions (value : Json) : List ModeFlaw :=
  if value.isOptionalStr then [] else [.instructionsNotText]

/-- What is wrong with a file expression. -/
def ofFileRegex (index : Nat) : Json → Except Failure (List ModeFlaw)
  | .null => .ok []
  | .str s =>
    match Pattern.compile s with
    | .ok _ => .ok []
    | .error (.syntaxError e) => .ok [.badFileRegex index e]
    | .error .repeatTooLarge => .error .repeatTooLarge
    | .error .flagConflict => .error (.badValue .flagConflict)
  | _ => .ok [.fileRegexNotText index]

/-- What is wrong with options. -/
def ofOptions (index : Nat) : Option GroupOptions → Except Failure (List ModeFlaw)
  | none => .ok []
  | some options => do
    let regexFlaws ← ofFileRegex index options.fileRegex
    return regexFlaws
      ++ if options.description.isOptionalStr then [] else [.descriptionNotText index]

/-- What is wrong with the items of the groups, given the index of the first and the groups granted
before. -/
def ofEntries (index : Nat) (seen : List ToolGroup) : List Json → Except Failure (List ModeFlaw)
  | [] => .ok []
  | item :: rest =>
    match GroupEntry.ofJson item with
    | .error why => return .badEntry index why :: (← ofEntries (index + 1) seen rest)
    | .ok entry => do
      let repeated := if seen.contains entry.group then [.duplicateGroup index entry.group] else []
      let optionFlaws ← ofOptions index entry.options?
      return repeated ++ optionFlaws ++ (← ofEntries (index + 1) (entry.group :: seen) rest)

/-- What is wrong with the groups. -/
def ofGroups : Json → Except Failure (List ModeFlaw)
  | .arr items => ofEntries 0 [] items
  | _ => .ok [.groupsNotList]

/-- The fields that no mode has. -/
def ofNames (names : List String) : List ModeFlaw :=
  match names.filter (!knownModeFields.contains ·) with
  | [] => []
  | unknown => [.unknownFields (Text.sorted unknown)]

/-- What is wrong with an object that has all required fields. -/
def ofFields (fields : Fields Json) : Except Failure (List ModeFlaw) := do
  let field name := (fields.lookup name).getD .null
  let groupFlaws ← ofGroups (field "groups")
  return ofSlug (field "slug") ++ ofName (field "name")
    ++ ofRole (Json.oneOf fields "roleDefinition" "role_definition")
    ++ ofInstructions (Json.oneOf fields "customInstructions" "custom_instructions")
    ++ groupFlaws ++ ofNames fields.names

end ModeFlaw

/-- The required fields that an object lacks. -/
def ModeField.lackingIn (fields : Fields Json) : List ModeField :=
  all.filter fun f => !f.keys.any fun key => (fields.lookup key).isSome

/-- Everything that is wrong with the data of a mode. -/
def Mode.flaws : Json → Except Failure (List ModeFlaw)
  | .obj fields =>
    match ModeField.lackingIn fields with
    | [] => ModeFlaw.ofFields fields
    | lacking => .ok (lacking.map .missing)
  | _ => .ok [.notObject]

end ModePolicy
