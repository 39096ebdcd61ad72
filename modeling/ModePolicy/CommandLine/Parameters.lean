import ModePolicy.Failure

/-!
Parameters of a call in the form `KEY=VALUE`.
-/

namespace ModePolicy.CommandLine

/-- The text before the first equals sign and the text after it, if there is one. -/
def splitPair (cs : List Char) : Option (List Char × List Char) :=
  match cs.dropWhile (· != '=') with
  | [] => none
  | _ :: value => some (cs.takeWhile (· != '='), value)

/-- A parameter. The key must not be empty; the value may be anything. -/
def parsePair (text : String) : Except BadValue (String × String) :=
  match splitPair text.toList with
  | some (c :: key, value) => .ok (String.ofList (c :: key), String.ofList value)
  | _ => .error (.parameter text)

/-- Parameters by key: of several of one key the last counts. -/
def parsePairs (texts : List String) : Except BadValue (Fields String) :=
  Fields.ofList <$> texts.mapM parsePair

/-- Parameters by key, where each must have a text. -/
def parseGivenPairs (texts : List (Option String)) : Except Failure (Fields String) :=
  Fields.ofList <$> texts.mapM fun
    | some text => (parsePair text).mapError .badValue
    | none => .error (.misuse .fieldless)

/-- Names, each of which must be there. -/
def givenNames (names : List (Option String)) : Except Misuse (List String) :=
  names.mapM fun
    | some name => .ok name
    | none => .error .unsuitable

end ModePolicy.CommandLine
