import ModePolicy.Console.Markup
import ModePolicy.Files.Tree
import ModePolicy.Json.Literal
import ModePolicy.Settings.Flaw
import ModePolicy.Text.Utf8

/-!
Everything that can stop an operation, as causes.
-/

namespace ModePolicy

/-- An edit outside the files that a mode may change. -/
structure PathViolation where
  modeName : Json
  pattern : Json
  description : Json
  path : Json
  deriving Inhabited

/-- The wording of a violation. -/
def PathViolation.message (v : PathViolation) : String :=
  let suffix := if v.description.truthy then " (" ++ v.description.plain ++ ")" else ""
  "This mode (" ++ v.modeName.plain ++ ") can only edit files matching pattern: " ++ v.pattern.plain
    ++ suffix ++ ". Got: " ++ v.path.plain

/-- Why a value that was given cannot be used. -/
inductive BadValue where
  | parameter (text : String)
  /-- An expression asks for ASCII classes and for classes of all scripts. -/
  | flagConflict
  | nulInPath
  /-- A pair to make a table of has another number of members. -/
  | pairLength (index length : Nat)
  /-- A tool is said to belong to a group that does not exist. -/
  | noSuchGroup (value : Json)
  | noSuchExperiment (value : Json)
  deriving Inhabited

/-- The wording of a bad value. -/
def BadValue.message : BadValue → String
  | .parameter text => "Invalid parameter '" ++ text ++ "', expected KEY=VALUE"
  | .flagConflict => "ASCII and UNICODE flags are incompatible"
  | .nulInPath => "embedded null byte"
  | .pairLength index length =>
    "dictionary update sequence element #" ++ toString index ++ " has length " ++ toString length
      ++ "; 2 is required"
  | .noSuchGroup value => value.literal ++ " is not a valid ToolGroup"
  | .noSuchExperiment value => value.literal ++ " is not a valid ExperimentId"

/-- What stops an operation. -/
inductive Failure where
  | misuse (m : Misuse)
  | badMode (r : ModeRejection)
  | badSettings (r : SettingsRejection)
  | modeNotFound (slug : Json)
  /-- An edit outside the files that a mode may change. -/
  | violation (v : PathViolation)
  | unknownGroup (value : Json)
  | badValue (why : BadValue)
  /-- A repetition count in an expression cannot be represented. -/
  | repeatTooLarge
  /-- A match was found in which some group ends before it begins. -/
  | crossedGroup
  | aggregation (text : String)
  | undecodable (why : Text.Utf8.DecodeError)
  | unreadable (why : FileError)
  /-- A text that is to be shown has a tag that closes nothing. -/
  | strayTag (stray : Console.Markup.StrayTag)
  deriving Inhabited

namespace Failure

/-- The wording of a failure; a wrong kind of value and the like have none. -/
def message : Failure → String
  | .misuse _ => ""
  | .badMode r => r.message
  | .badSettings r => r.message
  | .modeNotFound slug => "No mode found for slug: " ++ slug.plain
  | .violation v => v.message
  | .unknownGroup value => "Unknown tool group: " ++ value.literal
  | .badValue why => why.message
  | .repeatTooLarge => "the repetition number is too large"
  | .crossedGroup => "a group of the match ends before it begins"
  | .aggregation text => text
  | .undecodable why => why.message
  | .unreadable why => why.message
  | .strayTag stray => stray.message

end Failure

/-- A tag that closes nothing is a failure. -/
instance : MonadLift (Except Console.Markup.StrayTag) (Except Failure) where
  monadLift x := x.mapError .strayTag

/-- A misuse is a failure. -/
instance : MonadLift (Except Misuse) (Except Failure) where
  monadLift x := x.mapError .misuse

/-- An expression with a defect that is no syntax error is a failure. -/
def Failure.ofDefect : Pattern.Defect → Option Failure
  | .syntaxError _ => none
  | .repeatTooLarge => some .repeatTooLarge
  | .flagConflict => some (.badValue .flagConflict)

end ModePolicy
