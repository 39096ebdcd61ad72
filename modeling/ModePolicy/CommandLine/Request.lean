import ModePolicy.CommandLine.Consume

/-!
The options and commands of the program, and the requests that its arguments make.
-/

namespace ModePolicy.CommandLine

/-- The name of the program. -/
def programName : String := "modeguard"

/-- The version of the program. -/
def programVersion : String := "1.0.0"

/-- What the program is, in words. -/
def programDescription : String := "Operating modes and tool permissions for AI coding assistants"

/-- An option of the program itself. -/
inductive ProgramOption where
  | verbose
  deriving DecidableEq, Repr

/-- An option of a command. -/
inductive CommandOption where
  | state
  | workspace
  | language
  | mode
  | param
  | disable
  | noTools
  | experiment
  deriving DecidableEq, Repr

/-- A request to check a call. -/
structure CheckRequest where
  tool : String
  mode : Option String := none
  /-- The parameters of the call, or no text for each that was given none. -/
  params : List (Option String) := []
  /-- The tools that are turned off, or no name for each that was given none. -/
  disabled : List (Option String) := []
  noTools : Bool := false
  /-- The experiments that are switched on, or no name for each that was given none. -/
  experiments : List (Option String) := []
  deriving DecidableEq, Repr

/-- What a command is to do. -/
inductive Command where
  | listModes
  /-- Show a mode, in a directory and for a language if they are given. -/
  | showMode (slug : String) (workspace language : Option String)
  | checkTool (request : CheckRequest)
  deriving DecidableEq, Repr

/-- What the arguments ask for. -/
structure Request where
  verbose : Bool
  state : Option String
  command : Command
  deriving DecidableEq, Repr

/-- The option that asks for help. -/
def helpOption {α : Type} : OptionSpec α := ⟨["-h", "--help"], false, .halt .help⟩

/-- An option with a long flag and a value. -/
def valueOption {α : Type} (flag : String) (what : α) : OptionSpec α := ⟨[flag], true, .set what⟩

/-- The option that names the file with saved settings. -/
def stateOption : OptionSpec CommandOption := valueOption "--state" .state

/-- The options of the program itself. -/
def programGrammar : Grammar ProgramOption where
  program := programName
  options := [helpOption, ⟨["--version"], false, .halt .version⟩,
    ⟨["-v", "--verbose"], false, .set .verbose⟩]

/-- The options of a command. -/
def commandGrammar (name : String) (options : List (OptionSpec CommandOption)) :
    Grammar CommandOption where
  program := programName ++ " " ++ name
  options := helpOption :: options

/-- The options of the command `modes`. -/
def modesGrammar : Grammar CommandOption := commandGrammar "modes" [stateOption]

/-- The options of the command `show`. -/
def showGrammar : Grammar CommandOption :=
  commandGrammar "show" [stateOption, valueOption "--cwd" .workspace,
    valueOption "--language" .language]

/-- The options of the command `check`. -/
def checkGrammar : Grammar CommandOption :=
  commandGrammar "check" [
    valueOption "--mode" .mode,
    valueOption "--param" .param,
    valueOption "--disable" .disable,
    ⟨["--no-tools"], false, .set .noTools⟩,
    valueOption "--experiment" .experiment,
    stateOption]

/-- The one operand of a command. -/
def operand (g : Grammar CommandOption) (name : String) (r : Reading CommandOption) :
    Except Halt String :=
  match r.operands with
  | text :: _ => .ok text
  | [] => .error (.wrong g.program (.missing name))

/-- The command of a name, with what its options set and the arguments that are left over. -/
def parseCommand (name : String) (texts : List String) :
    Except Halt (Command × Reading CommandOption) := do
  if name == "modes" then
    let r ← modesGrammar.parse .none texts
    return (.listModes, r)
  else if name == "show" then
    let r ← showGrammar.parse .single texts
    let slug ← operand showGrammar "slug" r
    return (.showMode slug (r.lastValue? .workspace) (r.lastValue? .language), r)
  else if name == "check" then
    let r ← checkGrammar.parse .single texts
    let tool ← operand checkGrammar "tool" r
    return (.checkTool
      { tool
        mode := r.lastValue? .mode
        params := r.values .param
        disabled := r.values .disable
        noTools := r.has .noTools
        experiments := r.values .experiment }, r)
  else throw (.wrong programName (.invalidCommand name ["modes", "show", "check"]))

/-- What the arguments of the program ask for. -/
def parseArguments (texts : List String) : Except Halt Request := do
  let r ← programGrammar.parse .command texts
  match r.operands with
  | [] => throw (.wrong programName (.missing "command"))
  | name :: rest =>
    let (command, inner) ← parseCommand name rest
    match r.extras ++ inner.extras with
    | [] => return { verbose := r.has .verbose, state := inner.lastValue? .state, command }
    | extras => throw (.wrong programName (.unrecognized extras))

end ModePolicy.CommandLine
