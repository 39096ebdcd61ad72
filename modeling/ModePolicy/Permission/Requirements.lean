import ModePolicy.Json.Basic

/-!
Requirements: what callers say about which tools may be used.
-/

namespace ModePolicy

/-- What a caller requires. -/
inductive Requirements where
  | unrestricted
  | allOff
  | table (entries : List (Json × Bool))
  deriving Inhabited

namespace Requirements

/-- The entry for a tool. -/
def entry? (tool : Json) (entries : List (Json × Bool)) : Option Bool :=
  (entries.find? fun e => e.1.same tool).map (·.2)

/-- Sets the entry for a tool: a tool that is present keeps its place. -/
def setEntry (tool : Json) (usable : Bool) : List (Json × Bool) → List (Json × Bool)
  | [] => [(tool, usable)]
  | e :: rest => if e.1.same tool then (e.1, usable) :: rest else e :: setEntry tool usable rest

/-- The requirements in data: false turns everything off, an object has an entry for each name, and
any other value requires nothing. -/
def ofJson : Json → Requirements
  | .bool false => .allOff
  | .obj fields => .table (fields.map fun f => (.str f.1, f.2.truthy))
  | _ => .unrestricted

/-- The requirements turn these tools off, and no others. -/
def turningOff : List String → Requirements
  | [] => .unrestricted
  | names => .table (names.map fun name => (.str name, false))

end Requirements

end ModePolicy
