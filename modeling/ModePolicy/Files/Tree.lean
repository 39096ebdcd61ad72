import ModePolicy.Files.Path
import ModePolicy.Text.Quoted

/-!
Files as a tree of directories and regular files, without links.

Relative paths begin at the working directory. A step to the parent undoes the step before it; at
the root it stays.
-/

namespace ModePolicy

/-- A regular file or a directory. -/
inductive FileNode where
  | file (bytes : List UInt8)
  | directory (entries : List (String × FileNode))
  deriving Inhabited

/-- Files and a working directory. -/
structure FileTree where
  root : FileNode := .directory []
  workingDirectory : List String := []
  deriving Inhabited

/-- Why a file cannot be read. -/
inductive FileProblem where
  | notFound
  | notDirectory
  | isDirectory
  | nameTooLong
  deriving DecidableEq, Repr

namespace FileProblem

/-- The number of a problem. -/
def number : FileProblem → Nat
  | .notFound => 2
  | .notDirectory => 20
  | .isDirectory => 21
  | .nameTooLong => 36

/-- The words for a problem. -/
def words : FileProblem → String
  | .notFound => "No such file or directory"
  | .notDirectory => "Not a directory"
  | .isDirectory => "Is a directory"
  | .nameTooLong => "File name too long"

end FileProblem

/-- A file that cannot be read. -/
structure FileError where
  problem : FileProblem
  path : Path
  deriving DecidableEq, Repr

/-- The wording of an error. -/
def FileError.message (e : FileError) : String :=
  "[Errno " ++ toString e.problem.number ++ "] " ++ e.problem.words ++ ": "
    ++ Text.quoted e.path.toString

/-- The greatest length of a part of a path, in bytes. -/
def maxNameBytes : Nat := 255

/-- The greatest length of a path, in bytes. -/
def maxPathBytes : Nat := 4095

namespace FileNode

/-- Goes along the parts of a path from a node whose parents are given, nearest first. -/
def follow (parents : List FileNode) (node : FileNode) :
    List String → Except FileProblem (List FileNode × FileNode)
  | [] => .ok (parents, node)
  | part :: rest =>
    match node with
    | .file _ => .error .notDirectory
    | .directory entries =>
      if part == ".." then
        match parents with
        | [] => follow [] node rest
        | parent :: others => follow others parent rest
      else if part.utf8ByteSize > maxNameBytes then .error .nameTooLong
      else
        match entries.lookup part with
        | none => .error .notFound
        | some inner => follow (node :: parents) inner rest

/-- Puts a node under the last part of a path, making the directories on the way. -/
def insert (new : FileNode) : List String → FileNode → FileNode
  | [], _ => new
  | part :: rest, node =>
    let entries := match node with
      | .directory entries => entries
      | .file _ => []
    let inner := insert new rest ((entries.lookup part).getD (.directory []))
    if (entries.lookup part).isSome then
      .directory (entries.map fun e => if e.1 == part then (part, inner) else e)
    else .directory (entries ++ [(part, inner)])

end FileNode

namespace FileTree

/-- What a path names. -/
def find (t : FileTree) (p : Path) : Except FileProblem FileNode := do
  if p.toString.utf8ByteSize > maxPathBytes then throw .nameTooLong
  if p.anchor.isEmpty then
    let (parents, node) ← t.root.follow [] t.workingDirectory
    return (← node.follow parents p.parts).2
  else return (← t.root.follow [] p.parts).2

/-- What a path names, if anything. A path that holds NUL names nothing; one that is too long is an
error. -/
def probe (t : FileTree) (p : Path) : Except FileError (Option FileNode) :=
  if p.hasNul then .ok none
  else
    match t.find p with
    | .ok node => .ok (some node)
    | .error .nameTooLong => .error ⟨.nameTooLong, p⟩
    | .error _ => .ok none

/-- The bytes of the file that a path names. -/
def read (t : FileTree) (p : Path) : Except FileError (List UInt8) :=
  match t.find p with
  | .ok (.file bytes) => .ok bytes
  | .ok (.directory _) => .error ⟨.isDirectory, p⟩
  | .error problem => .error ⟨problem, p⟩

/-- Puts a node under a path that begins at the working directory. -/
def insert (t : FileTree) (p : Path) (node : FileNode) : FileTree :=
  let start := if p.anchor.isEmpty then t.workingDirectory else []
  { t with root := FileNode.insert node (start ++ p.parts) t.root }

end FileTree

end ModePolicy
