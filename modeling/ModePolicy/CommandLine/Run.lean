import ModePolicy.CommandLine.Parameters
import ModePolicy.CommandLine.Request
import ModePolicy.Console.Table
import ModePolicy.Instructions.Aggregation
import ModePolicy.Profile
import ModePolicy.Settings.Reading

/-!
What the program does: it reads settings, runs a command and ends with a status.

The status tells apart what may be used (0), what may not (1) and edits outside the permitted files
(2); anything that keeps a command from being run gives another one (3). Arguments that ask for
nothing to be run end with the status 0 if they ask for help or for the version, and with 2 if they
are wrong.
-/

namespace ModePolicy.CommandLine

/-- The status of a call that is allowed. -/
def statusAllowed : Nat := 0

/-- The status of a call that is denied. -/
def statusDenied : Nat := 1

/-- The status of an edit outside the permitted files. -/
def statusViolation : Nat := 2

/-- The status if a command cannot be run. -/
def statusUsage : Nat := 3

/-- The status if the arguments are wrong. -/
def statusArguments : Nat := 2

/-- What a run shows, and the status it ends with. -/
structure Outcome where
  status : Nat
  lines : List String := []
  table : List (List String) := []
  complaint : String := ""
  deriving DecidableEq, Repr

/-- Where a run finds its files. -/
structure Surroundings where
  files : FileTree
  globalRules : Path
  deriving Inhabited

/-- The text of a file. -/
def readText (files : FileTree) (path : Path) : Except Failure String := do
  if path.hasNul then throw (.badValue .nulInPath)
  match files.read path with
  | .error why => throw (.unreadable why)
  | .ok bytes =>
    match Text.Utf8.decode bytes with
    | .error why => throw (.undecodable why)
    | .ok cs => return String.ofList (Text.normalizeLineEnds cs)

/-- The settings in a file, or the default ones if no file is named. -/
def loadSettings (files : FileTree) : Option String → Report Settings
  | none => return {}
  | some "" => return {}
  | some path => do Settings.ofText (← readText files (.ofString path))

/-- The lines that are shown of markup. -/
def markupLines (markup : String) : Except Failure (List String) :=
  liftM (Console.displayMarkup markup)

/-- A text in red. -/
def errorLines (text : String) : Except Failure (List String) :=
  markupLines ("[red]" ++ Console.Markup.escape text ++ "[/red]")

/-- A grant, with its file pattern if it has one. -/
def grantText (entry : GroupEntry) : String :=
  match entry.options? with
  | some options =>
    if options.fileRegex.truthy then entry.group.name ++ " (" ++ options.fileRegex.plain ++ ")"
    else entry.group.name
  | none => entry.group.name

/-- The grants of a mode. -/
def grantsText (m : Mode) : String :=
  if m.groups.isEmpty then "none" else joinTexts ", " (m.groups.map grantText)

/-- The row of a mode. -/
def modeRow (p : Profile) (m : Mode) : List String :=
  [m.slug.plain, m.name.plain, grantsText m, if p.isCustom m.slug then "custom" else "built-in"]

/-- Lists all modes. -/
def listModes (p : Profile) : Except Failure Outcome := do
  let header := ["Slug", "Name", "Groups", "Source"]
  let table ← Console.displayTable header (p.modes.map (modeRow p))
  return { status := statusAllowed, lines := ["Modes"], table }

/-- The lines on the instructions of a mode, if there are any. -/
def instructionLines (instructions : Json) : Except Failure (List String) := do
  if instructions.truthy then
    return "" :: (← markupLines "[bold]Custom instructions[/bold]")
      ++ Console.display instructions.plain
  else return []

/-- The lines on a mode. -/
def modeLines (m : Mode) (tools : List String) : Except Failure (List String) := do
  let heading ← markupLines ("[bold]" ++ Console.Markup.escape m.name.plain ++ "[/bold] ("
    ++ Console.Markup.escape m.slug.plain ++ ")")
  return heading
    ++ Console.display ("Groups: " ++ grantsText m)
    ++ Console.display ("Tools: " ++ joinTexts ", " tools)
    ++ "" :: (← markupLines "[bold]Role definition[/bold]")
    ++ Console.display m.role.plain
    ++ (← instructionLines m.instructions)

/-- The context of a mode that is shown: only a directory that is named makes one. -/
def contextOf (workspace language : Option String) : Option ModeContext :=
  match workspace with
  | none => none
  | some path =>
    if path.isEmpty then none
    else some { workspace := .str path, language := (language.map Json.str).getD .null }

/-- Shows a mode as a task would work under it. -/
def showMode (s : Surroundings) (p : Profile) (slug : String) (workspace language : Option String) :
    Report Outcome :=
  match p.find (.str slug) with
  | .error why => do return { status := statusUsage, lines := ← errorLines why.message }
  | .ok _ => do
    let aggregate := Instructions.aggregate s.files s.globalRules
    let m ← p.effective (.str slug) (contextOf workspace language) aggregate
    let tools ← p.toolsFor m.slug
    return { status := statusAllowed, lines := ← modeLines m tools }

/-- The requirements that a request makes: it turns everything off, or the tools it names. -/
def CheckRequest.requirements (r : CheckRequest) : Except Misuse Requirements :=
  if r.noTools then .ok .allOff else .turningOff <$> givenNames r.disabled

/-- The flags with some experiments switched on. -/
def switchOn (flags : FlagTable) (names : List String) : FlagTable :=
  names.foldl (fun flags name => flags.set (.str name) (.bool true)) flags

/-- The lines on a decision. -/
def decisionLines (tool slug : String) : Decision → Except Failure (List String)
  | .allowed group =>
    let grantedBy := (group.map (·.name)).getD "always available"
    markupLines ("[green]allowed[/green] " ++ Console.Markup.escape tool ++ " in "
      ++ Console.Markup.escape slug ++ " (" ++ grantedBy ++ ")")
  | .violation v =>
    markupLines ("[yellow]violation[/yellow] " ++ Console.Markup.escape v.message)
  | .denied why =>
    markupLines ("[red]denied[/red] " ++ Console.Markup.escape tool ++ " in "
      ++ Console.Markup.escape slug ++ " (" ++ why.name ++ ")")

/-- The status for a decision. -/
def decisionStatus : Decision → Nat
  | .allowed _ => statusAllowed
  | .denied _ => statusDenied
  | .violation _ => statusViolation

/-- The slug of the mode that a call is checked in. -/
def CheckRequest.slug (r : CheckRequest) (settings : Settings) : Json :=
  ((r.mode.map Json.str).getD .null).orElse settings.mode

/-- The profile that a call is checked in: that of the settings, with the experiments of the request
switched on. -/
def CheckRequest.profile (r : CheckRequest) (settings : Settings) : Except Misuse Profile := do
  let experiments := switchOn settings.experiments (← givenNames r.experiments)
  return Profile.ofSettings { settings with experiments }

/-- Checks a call. -/
def checkTool (settings : Settings) (r : CheckRequest) : Report Outcome := do
  let profile ← r.profile settings
  match parseGivenPairs r.params with
  | .error (.badValue why) => return { status := statusUsage, lines := ← errorLines why.message }
  | .error why => Report.fail why
  | .ok params =>
    let slug := r.slug settings
    let call := CallData.raw (.obj (params.mapValues .str))
    let decision ← profile.check (.str r.tool) slug call (← r.requirements)
    let lines ← decisionLines r.tool slug.plain decision
    return { status := decisionStatus decision, lines }

/-- Runs a command with the settings that it names. -/
def runCommand (s : Surroundings) (r : Request) : Report Outcome := do
  let settings ← loadSettings s.files r.state
  match r.command with
  | .listModes => listModes (.ofSettings settings)
  | .showMode slug workspace language => showMode s (.ofSettings settings) slug workspace language
  | .checkTool check => checkTool settings check

/-- What is shown of a failure, under a title in red. -/
def titled (title : String) (why : Failure) : Except Failure Outcome := do
  let lines ← markupLines ("[red]" ++ title ++ ":[/red] " ++ Console.Markup.escape why.message)
  return { status := statusUsage, lines }

/-- What is shown of a failure that users can mend; any other one stays. -/
def explain (why : Failure) : Except Failure Outcome :=
  match why with
  | .badSettings _ => titled "Invalid state" why
  | .badMode _ => titled "Invalid state" why
  | .unreadable _ => titled "Error" why
  | _ => .error why

/-- What is shown if the arguments ask for nothing to be run. -/
def haltOutcome : Halt → Outcome
  | .help => { status := statusAllowed }
  | .version => { status := statusAllowed, lines := [programName ++ " " ++ programVersion] }
  | .wrong program why => { status := statusArguments, complaint := reportLine program why }

/-- Runs the program. -/
def run (s : Surroundings) (arguments : List String) : Report Outcome :=
  match parseArguments arguments with
  | .error halt => return haltOutcome halt
  | .ok request => (runCommand s request).recover explain

/-- What is logged to the console: warnings and errors, and everything if details are asked for. -/
def shownLog (verbose : Bool) (log : List LogEntry) : List LogEntry :=
  if verbose then log else log.filter fun e => e.level.rank ≥ LogLevel.warning.rank

/-- Details are asked for. -/
def isVerbose (arguments : List String) : Bool :=
  match parseArguments arguments with
  | .ok request => request.verbose
  | .error _ => false

end ModePolicy.CommandLine
