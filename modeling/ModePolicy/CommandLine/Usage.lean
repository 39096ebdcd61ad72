import ModePolicy.Text.Blank
import ModePolicy.Text.Lines
import ModePolicy.Text.Quoted

/-!
What can be wrong with the arguments of a command line, and how it is worded.
-/

namespace ModePolicy.CommandLine

/-- What is wrong with arguments. -/
inductive UsageProblem where
  | ambiguous (text : String) (flags : List String)
  | valueExpected (option : String)
  | valueIgnored (option value : String)
  | invalidCommand (value : String) (choices : List String)
  | missing (name : String)
  | unrecognized (texts : List String)
  deriving DecidableEq, Repr

/-- The wording of a problem. -/
def UsageProblem.message : UsageProblem → String
  | .ambiguous text flags =>
    "ambiguous option: " ++ text ++ " could match " ++ ", ".intercalate flags
  | .valueExpected option => "argument " ++ option ++ ": expected one argument"
  | .valueIgnored option value =>
    "argument " ++ option ++ ": ignored explicit argument " ++ Text.quoted value
  | .invalidCommand value choices =>
    "argument command: invalid choice: " ++ Text.quoted value ++ " (choose from "
      ++ ", ".intercalate (choices.map Text.quoted) ++ ")"
  | .missing name => "the following arguments are required: " ++ name
  | .unrecognized texts => "unrecognized arguments: " ++ " ".intercalate texts

/-- Why the arguments ask for nothing to be run. -/
inductive Halt where
  | help
  | version
  /-- The arguments of a program, or of one of its commands, are wrong. -/
  | wrong (program : String) (why : UsageProblem)
  deriving DecidableEq, Repr

/-- The last line of the report of a problem, the white space at its end aside. -/
def reportLine (program : String) (why : UsageProblem) : String :=
  ((Text.lines (Text.strip (program ++ ": error: " ++ why.message))).getLast?).getD ""

end ModePolicy.CommandLine
