import ModePolicy.CommandLine.Run

/-!
The program: it looks at the files that a request can depend on, runs the request on them, and
prints what it shows.
-/

namespace ModePolicy.Program

/-- The regular files in a directory on the disk; those that cannot be read are left out. -/
def observeEntries (path : String) : IO (List (String × FileNode)) := do
  let mut entries : List (String × FileNode) := []
  for entry in ← (← IO.FS.realPath path).readDir do
    try
      if !(← entry.path.isDir) then
        entries := (entry.fileName, .file (← IO.FS.readBinFile entry.path).toList) :: entries
    catch _ => pure ()
  return entries

/-- What a path names on the disk: a directory, with the files in it if `deep`, a file, or
nothing. -/
def observe (deep : Bool) (path : String) : IO (Option FileNode) := do
  try
    if ← (← IO.FS.realPath path).isDir then
      if deep then return some (.directory (← observeEntries path))
      return some (.directory [])
    else return some (.file (← IO.FS.readBinFile path).toList)
  catch _ => return none

/-- The path from the root, with steps to the parent carried out. -/
def fromRoot (workingDirectory : List String) (path : Path) : Path where
  anchor := "/"
  parts := path.parts.foldl
    (fun parts part => if part == ".." then parts.dropLast else parts ++ [part])
    (if path.anchor.isEmpty then workingDirectory else [])

/-- Adds what a path names on the disk, unless it is there already. -/
def add (deep : Bool) (files : FileTree) (path : Path) : IO FileTree := do
  if (files.find path).isOk then return files
  match ← observe deep path.toString with
  | some node => return files.insert (fromRoot files.workingDirectory path) node
  | none => return files

/-- The paths on the way to a path. -/
def parents (path : Path) : List Path :=
  (List.range path.parts.length).map fun n => { path with parts := path.parts.take n }

/-- Adds what a path names on the disk, and the directories on the way. -/
def gather (files : FileTree) (path : Path) : IO FileTree := do
  add true (← (parents path).foldlM (add false) files) path

/-- The paths that a request can depend on. -/
def neededPaths (globalRules : Path) (request : CommandLine.Request) : List Path :=
  let settings := (request.state.map Path.ofString).toList
  match request.command with
  | .showMode slug (some workspace) _ =>
    let directory := Path.ofString workspace
    settings ++ [globalRules, directory.join Rules.directory, directory.join Rules.singleFile,
      directory.join (Rules.modeDirectory slug), directory.join (Rules.modeSingleFile slug)]
  | _ => settings

/-- The directory with rules for all workspaces. -/
def globalRules : IO Path := do
  return (Path.ofString ((← IO.getEnv "HOME").getD "/")).join Rules.directory

/-- The files that arguments can depend on. -/
def surroundings (arguments : List String) : IO CommandLine.Surroundings := do
  let rules ← globalRules
  let current ← IO.currentDir
  let empty : FileTree := { workingDirectory := (Path.ofString current.toString).parts }
  let files := add false empty {}
  match CommandLine.parseArguments arguments with
  | .error _ => return { files := ← files, globalRules := rules }
  | .ok request =>
    return { files := ← (neededPaths rules request).foldlM gather (← files), globalRules := rules }

/-- Prints what a run shows. -/
def print (outcome : CommandLine.Outcome) : IO Unit := do
  for line in outcome.lines do IO.println line
  for row in outcome.table do IO.println ("  ".intercalate row)
  if !outcome.complaint.isEmpty then IO.eprintln outcome.complaint

/-- Runs the program and gives the status it ends with. -/
def start (arguments : List String) : IO UInt32 := do
  let report := CommandLine.run (← surroundings arguments) arguments
  for entry in CommandLine.shownLog (CommandLine.isVerbose arguments) report.log do
    IO.println entry.line
  match report.result with
  | .ok outcome =>
    print outcome
    return outcome.status.toUInt32
  | .error why =>
    IO.eprintln why.message
    return 1

end ModePolicy.Program

/-- Runs the program. -/
def main (arguments : List String) : IO UInt32 := ModePolicy.Program.start arguments
