import ModePolicy.CommandLine.Usage
import ModePolicy.Text.Letter

/-!
Options among arguments.

An argument that begins with a hyphen is an option if it is one of the flags, a flag followed by an
equals sign and a value, an unambiguous beginning of a long flag, or one-letter flags run together,
also with an equals sign after the first. What looks like a negative number or holds a space is a
plain argument, and so is everything after `--`. Two hyphens as a value stand for no value.
-/

namespace ModePolicy.CommandLine

/-- What an option does. -/
inductive Effect (α : Type) where
  | set (what : α)
  | halt (why : Halt)
  deriving Repr

/-- An option of a program. -/
structure OptionSpec (α : Type) where
  flags : List String
  takesValue : Bool
  effect : Effect α
  deriving Repr

/-- A program, or a command of one, with its options. -/
structure Grammar (α : Type) where
  program : String
  options : List (OptionSpec α)

/-- What is written into an argument after the flag of an option. -/
inductive Written where
  | nothing
  | assigned (value : String)
  /-- Letters after a flag of one letter, with or without an equals sign between them: the value, or
  more such flags. -/
  | letters (text : String)
  deriving DecidableEq, Repr

/-- An argument, as it is understood. -/
inductive Argument (α : Type) where
  | plain (text : String)
  | separator
  /-- An option, with what else is written into the same argument. -/
  | option (spec : OptionSpec α) (written : Written)
  | unknown (text : String)

namespace OptionSpec

variable {α : Type}

/-- The name of an option in reports. -/
def label (spec : OptionSpec α) : String := "/".intercalate spec.flags

end OptionSpec

namespace Grammar

variable {α : Type}

/-- The flags with their options, in order. -/
def flags (g : Grammar α) : List (String × OptionSpec α) :=
  g.options.flatMap fun o => o.flags.map fun f => (f, o)

/-- The option of a flag. -/
def option? (g : Grammar α) (flag : String) : Option (OptionSpec α) := g.flags.lookup flag

/-- A text up to its first equals sign, and what is written from there on. -/
def splitValue (text : List Char) : List Char × Written :=
  match text.dropWhile (· != '=') with
  | [] => (text, .nothing)
  | _ :: value => (text.takeWhile (· != '='), .assigned (String.ofList value))

/-- The digits of a number. -/
def isDigits (cs : List Char) : Bool := !cs.isEmpty && cs.all fun c => Text.isDecimalDigit c.toNat

/-- A text without one line feed at its end. -/
def dropFinalLineFeed (cs : List Char) : List Char :=
  match cs.reverse with
  | '\n' :: rest => rest.reverse
  | _ => cs

/-- The text is a hyphen and an unsigned number, with or without a fraction. -/
def isNegativeNumber : List Char → Bool
  | '-' :: rest =>
    let number := dropFinalLineFeed rest
    let fraction := number.dropWhile fun c => Text.isDecimalDigit c.toNat
    isDigits number || match fraction with
      | '.' :: digits => isDigits digits
      | _ => false
  | _ => false

/-- The flags that an argument may stand for without being one of them, with what else is written
into it. -/
def candidates (g : Grammar α) (text : List Char) : List (String × OptionSpec α × Written) :=
  match text with
  | '-' :: '-' :: _ =>
    let (beginning, written) := splitValue text
    (g.flags.filter fun f => beginning.isPrefixOf f.1.toList).map fun f => (f.1, f.2, written)
  | first :: second :: rest =>
    g.flags.filterMap fun f =>
      if f.1.toList == [first, second] then some (f.1, f.2, .letters (String.ofList rest))
      else if text.isPrefixOf f.1.toList then some (f.1, f.2, .nothing)
      else none
  | _ => []

/-- What a value is to a flag, which may have one letter. -/
def Written.after (flag : List Char) (value : String) : Written :=
  if flag.take 2 == ['-', '-'] then .assigned value else .letters value

/-- The option that an argument is because it begins with a flag and an equals sign. -/
def assigned? (g : Grammar α) (text : List Char) : Option (Argument α) :=
  match splitValue text with
  | (flag, .assigned value) =>
    (g.option? (String.ofList flag)).map fun spec => .option spec (Written.after flag value)
  | _ => none

/-- Reads an argument that begins with a hyphen and is no flag. -/
def readOther (g : Grammar α) (text : String) : Except Halt (Argument α) :=
  match g.candidates text.toList with
  | [(_, spec, written)] => .ok (.option spec written)
  | [] =>
    .ok (if isNegativeNumber text.toList || text.toList.contains ' ' then .plain text
      else .unknown text)
  | several => .error (.wrong g.program (.ambiguous text (several.map (·.1))))

/-- Reads an argument before the separator. -/
def read (g : Grammar α) (text : String) : Except Halt (Argument α) :=
  match text.toList with
  | '-' :: second :: rest =>
    match g.option? text with
    | some spec => .ok (.option spec .nothing)
    | none =>
      match g.assigned? ('-' :: second :: rest) with
      | some argument => .ok argument
      | none => g.readOther text
  | _ => .ok (.plain text)

/-- Reads arguments, each with its text. -/
def readAll (g : Grammar α) : List String → Except Halt (List (String × Argument α))
  | [] => .ok []
  | text :: rest =>
    if text == "--" then .ok ((text, .separator) :: rest.map fun t => (t, .plain t))
    else do return (text, ← g.read text) :: (← readAll g rest)

end Grammar

/-- The options in one argument. -/
structure Bundle (α : Type) where
  /-- The options that are complete, in order, each with its value if it has one. -/
  complete : List (Effect α × Option String) := []
  /-- The last option, if it takes the next argument as its value. -/
  pending : Option (OptionSpec α) := none

namespace Grammar

variable {α : Type}

/-- An option with a value that is written into its argument; two hyphens are no value. -/
def complete (spec : OptionSpec α) (value : String) : Bundle α :=
  { complete := [(spec.effect, if value == "--" then none else some value)] }

/-- An option by itself. -/
def alone (spec : OptionSpec α) : Bundle α :=
  if spec.takesValue then { pending := some spec } else { complete := [(spec.effect, none)] }

/-- The refusal of a value by an option that takes none. -/
def refuse (g : Grammar α) (spec : OptionSpec α) (value : String) : Except Halt (Bundle α) :=
  .error (.wrong g.program (.valueIgnored spec.label value))

/-- The options in a run of one-letter flags, given the option of the first one and the letters
after it. -/
def unbundle (g : Grammar α) (spec : OptionSpec α) (text : List Char) : Except Halt (Bundle α) :=
  if spec.takesValue then .ok (complete spec (String.ofList text))
  else
    match text with
    | [] => g.refuse spec ""
    | c :: rest =>
      match g.option? (String.ofList ['-', c]), rest with
      | none, _ => g.refuse spec (String.ofList (c :: rest))
      | some next, [] =>
        let bundle := alone next
        .ok { bundle with complete := (spec.effect, none) :: bundle.complete }
      | some next, d :: rest => do
        let bundle ← unbundle g next (d :: rest)
        return { bundle with complete := (spec.effect, none) :: bundle.complete }

/-- The options in an argument, given the first of them and what else is written into the
argument. -/
def unfold (g : Grammar α) (spec : OptionSpec α) : Written → Except Halt (Bundle α)
  | .nothing => .ok (alone spec)
  | .assigned value => if spec.takesValue then .ok (complete spec value) else g.refuse spec value
  | .letters text => g.unbundle spec text.toList

end Grammar

end ModePolicy.CommandLine
