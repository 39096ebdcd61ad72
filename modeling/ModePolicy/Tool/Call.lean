import ModePolicy.Report
import ModePolicy.Text.Sorted

/-!
The parameters of a tool call that permissions depend on: the file it is about, and what it would
write.
-/

namespace ModePolicy

/-- The parameters of a call. -/
structure CallParams where
  path : Json := .null
  diff : Json := .null
  content : Json := .null
  operations : Json := .null
  deriving Inhabited

namespace CallParams

/-- The names of the parameters that are kept. -/
def kept : List String := ["path", "diff", "content", "operations"]

/-- The call would write something: a difference or a content that is not empty, or any
operations. -/
def writes (p : CallParams) : Bool := p.diff.truthy || p.content.truthy || !p.operations.isNull

/-- A path as text; null stays null. -/
def pathText (value : Json) : Json := if value.isNull then .null else .str value.plain

/-- The names that are not kept, as sorted texts. -/
def ignored (names : List Json) : List String :=
  Text.sorted ((names.filter fun name => !kept.any fun k => name.same (.str k)).map (·.plain))

/-- Reports the names that are not kept, if there are any. -/
def noteIgnored (names : List String) : Report Unit :=
  if names.isEmpty then return ()
  else .note .debug
    ("Ignoring tool parameters not used for permission checks: "
      ++ (Json.arr (names.map .str)).literal)

/-- The parameters among those of a call. Data that are absent or empty give none. -/
def ofJson (raw : Json) : Report CallParams :=
  if !raw.truthy then return {}
  else do
    noteIgnored (ignored (← raw.elements))
    let path ← raw.fieldD "path" .null
    let diff ← raw.fieldD "diff" .null
    let content ← raw.fieldD "content" .null
    let operations ← raw.fieldD "operations" .null
    return { path := pathText path, diff, content, operations }

end CallParams

end ModePolicy
