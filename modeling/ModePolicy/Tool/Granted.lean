import ModePolicy.Mode.Reading

/-!
Groups, and the tools they grant, given by values.
-/

namespace ModePolicy

/-- The group that a value names, which must exist. -/
def ToolGroup.require (value : Json) : Except Failure ToolGroup :=
  match ofJson? value with
  | some g => .ok g
  | none => .error (.badValue (.noSuchGroup value))

/-- The tools of the group that a value names. -/
def toolsOfGroup (value : Json) : Except Failure (List String) :=
  match ToolGroup.ofJson? value with
  | some g => .ok g.tools
  | none => .error (.unknownGroup value)

/-- A grant in any of the shapes in which it may be given. -/
inductive GivenEntry where
  | data (value : Json)
  /-- The options are read already, the group is still to be found. -/
  | under (name : Json) (options : GroupOptions)
  | entry (e : GroupEntry)
  deriving Inhabited

/-- The grant that is given. -/
def GivenEntry.read : GivenEntry → Except EntryError GroupEntry
  | .data value => GroupEntry.ofJson value
  | .under name options => return .restricted (← GroupEntry.readGroup name) options
  | .entry e => .ok e

/-- The tools that a list of grants gives, with those that every mode has. The first item that
grants no group is reported. -/
def toolsOfGiven (given : List GivenEntry) : Except Failure (List String) :=
  match given.mapM (·.read) with
  | .ok entries => .ok (toolsOfGroups (entries.map (·.group)))
  | .error why => .error (.badMode (.entry why))

/-- The tools that the items of a value give. -/
def toolsOfEntries (groups : Json) : Except Failure (List String) := do
  toolsOfGiven ((← groups.elements).map .data)

end ModePolicy
