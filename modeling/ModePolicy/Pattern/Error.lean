import ModePolicy.Pattern.Basic
import ModePolicy.Text.Lines
import ModePolicy.Text.Quoted

/-!
Why a text is not a regular expression.

A syntax error has a cause and, but for one cause, a position; its message gives line and column as
well when the expression has several lines. Two further failures are no syntax errors: a repetition
count too large to be represented, and flags that exclude each other.
-/

namespace ModePolicy.Pattern

/-- What is wrong with the syntax of an expression. -/
inductive Cause where
  | unterminatedGroup
  | unterminatedClass
  | unterminatedComment
  | unterminatedName (terminator : Char)
  | unbalanced
  | nothingToRepeat
  | multipleRepeat
  | repeatBounds
  /-- A range has ends in the wrong order, or ends that are no characters. -/
  | badRange (low high : String)
  | badEscape (text : String)
  | trailingBackslash
  | incompleteEscape (text : String)
  | octalEscape (text : String)
  | invalidGroup (index : Nat)
  | openGroup
  /-- A reference to a group from inside the look-behind that holds it. -/
  | groupInLookBehind
  | unexpectedEnd
  | missingName (what : String)
  | badName (name : String)
  | redefinedName (name : String) (index earlier : Nat)
  | unknownName (name : String)
  | badGroupNumber
  | unknownExtension (text : String)
  | unknownFlag
  | missingFlagEnd
  /-- After flags that are switched off, a colon was to come. -/
  | missingColon
  | missingFlag
  /-- The flag `L` belongs to other kinds of expressions. -/
  | localeFlag
  | incompatibleFlags
  /-- A flag that can only be switched on for the whole expression. -/
  | globalFlagOn
  | kindFlagOff
  | globalFlagOff
  | flagOnAndOff
  | misplacedFlags
  | tooManyBranches
  | lookBehindWidth
  | templateRepetition (greed : Greed)
  | missingBrace
  | unknownCharacter (name : String)
  deriving DecidableEq, Repr

/-- The name of a repetition. -/
def repetitionName : Greed → String
  | .greedy => "MAX_REPEAT"
  | .lazy => "MIN_REPEAT"
  | .possessive => "POSSESSIVE_REPEAT"

/-- The wording of a cause. -/
def Cause.message : Cause → String
  | .unterminatedGroup => "missing ), unterminated subpattern"
  | .unterminatedClass => "unterminated character set"
  | .unterminatedComment => "missing ), unterminated comment"
  | .unterminatedName terminator => "missing " ++ terminator.toString ++ ", unterminated name"
  | .unbalanced => "unbalanced parenthesis"
  | .nothingToRepeat => "nothing to repeat"
  | .multipleRepeat => "multiple repeat"
  | .repeatBounds => "min repeat greater than max repeat"
  | .badRange low high => "bad character range " ++ low ++ "-" ++ high
  | .badEscape text => "bad escape " ++ text
  | .trailingBackslash => "bad escape (end of pattern)"
  | .incompleteEscape text => "incomplete escape " ++ text
  | .octalEscape text => "octal escape value " ++ text ++ " outside of range 0-0o377"
  | .invalidGroup index => "invalid group reference " ++ toString index
  | .openGroup => "cannot refer to an open group"
  | .groupInLookBehind => "cannot refer to group defined in the same lookbehind subpattern"
  | .unexpectedEnd => "unexpected end of pattern"
  | .missingName what => "missing " ++ what
  | .badName name => "bad character in group name " ++ Text.quoted name
  | .redefinedName name index earlier =>
    "redefinition of group name " ++ Text.quoted name ++ " as group " ++ toString index
      ++ "; was group " ++ toString earlier
  | .unknownName name => "unknown group name " ++ Text.quoted name
  | .badGroupNumber => "bad group number"
  | .unknownExtension text => "unknown extension ?" ++ text
  | .unknownFlag => "unknown flag"
  | .missingFlagEnd => "missing -, : or )"
  | .missingColon => "missing :"
  | .missingFlag => "missing flag"
  | .localeFlag => "bad inline flags: cannot use 'L' flag with a str pattern"
  | .incompatibleFlags => "bad inline flags: flags 'a', 'u' and 'L' are incompatible"
  | .globalFlagOn => "bad inline flags: cannot turn on global flag"
  | .kindFlagOff => "bad inline flags: cannot turn off flags 'a', 'u' and 'L'"
  | .globalFlagOff => "bad inline flags: cannot turn off global flag"
  | .flagOnAndOff => "bad inline flags: flag turned on and off"
  | .misplacedFlags => "global flags not at the start of the expression"
  | .tooManyBranches => "conditional backref with more than two branches"
  | .lookBehindWidth => "look-behind requires fixed-width pattern"
  | .templateRepetition greed =>
    "internal: unsupported template operator " ++ repetitionName greed
  | .missingBrace => "missing \x7b"
  | .unknownCharacter name => "undefined character name " ++ Text.quoted name

/-- A syntax error of a given expression. -/
structure SyntaxError where
  source : List Char
  cause : Cause
  /-- The index of the character that the error is about. -/
  position : Option Nat
  deriving DecidableEq, Repr

/-- The wording of a syntax error. -/
def SyntaxError.message (e : SyntaxError) : String :=
  match e.position with
  | none => e.cause.message
  | some n =>
    let text := e.cause.message ++ " at position " ++ toString n
    if e.source.contains '\n' then
      let place := Text.Place.after (e.source.take n)
      text ++ " (line " ++ toString place.line ++ ", column " ++ toString place.column ++ ")"
    else text

/-- Why a text cannot be used as a regular expression. -/
inductive Defect where
  | syntaxError (e : SyntaxError)
  | repeatTooLarge
  /-- It asks for ASCII classes and for classes of all scripts. -/
  | flagConflict
  deriving DecidableEq, Repr

end ModePolicy.Pattern
