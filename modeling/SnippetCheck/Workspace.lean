import SnippetCheck.Files.Access

/-!
# Workspaces

A workspace is what a run works on: files, the directory that paths start from, and the
commands that were launched, in order. An action changes a workspace and may fail; what it
has changed before it fails stays changed.

Commands are run by a machine. A run is a function of the machine and the workspace that it
starts from.
-/

namespace SnippetCheck

open Files

/-- How a command ended. -/
inductive ExitStatus where
  /-- It ended by itself with a code. -/
  | code (n : Nat)
  /-- A signal ended it. -/
  | signal (n : Nat)
  deriving DecidableEq, Repr

namespace ExitStatus

/-- Whether a command succeeded. -/
def isSuccess (status : ExitStatus) : Bool :=
  status = .code 0

/-- The names of the signals from 1 on. -/
def signalNames : List String :=
  ["HUP", "INT", "QUIT", "ILL", "TRAP", "ABRT", "BUS", "FPE", "KILL", "USR1", "SEGV", "USR2",
    "PIPE", "ALRM", "TERM"]

/-- How a command ended, in words. -/
def describe : ExitStatus → String
  | .code n => s!"exit status: {n}"
  | .signal n =>
    match signalNames[n - 1]? with
    | some name => s!"signal: {n} (SIG{name})"
    | none => s!"signal: {n}"

end ExitStatus

/-- A command. -/
structure Command where
  /-- The program. -/
  program : String
  /-- Its arguments. -/
  args : List String
  /-- The path of the directory that it runs in, if not the working directory. -/
  dir : Option String := none
  deriving DecidableEq, Repr

/-- What is known of a command that has ended. -/
structure Finished where
  /-- How it ended. -/
  status : ExitStatus
  /-- What it wrote to its output. -/
  output : List UInt8
  /-- What it wrote to its error output. -/
  errors : List UInt8
  deriving DecidableEq, Repr

/-- What runs commands. -/
structure Machine where
  /-- Run a command, given the working directory and the files. There is no result when the
  command cannot be launched. -/
  run : Command → Location → Tree → Option Finished × Tree

/-- What a run works on. -/
structure Workspace where
  /-- The files. -/
  files : Tree
  /-- The working directory. -/
  cwd : Location := []
  /-- The commands that were launched so far. -/
  launches : List Command := []

namespace Workspace

/-- Run a command. -/
def launch (machine : Machine) (command : Command) (workspace : Workspace) :
    Option Finished × Workspace :=
  let (finished, files) := machine.run command workspace.cwd workspace.files
  (finished, { workspace with files, launches := workspace.launches ++ [command] })

/-- The text of a file. -/
def readText (workspace : Workspace) (path : String) : Except Refusal String :=
  workspace.files.readText workspace.cwd path

/-- Whether a path leads to a file. -/
def isFile (workspace : Workspace) (path : String) : Bool :=
  workspace.files.isFile workspace.cwd path

/-- Whether a path leads to a directory. -/
def isDirectory (workspace : Workspace) (path : String) : Bool :=
  workspace.files.isDirectory workspace.cwd path

/-- Whether a path leads to a file or a directory. -/
def isPresent (workspace : Workspace) (path : String) : Bool :=
  workspace.files.isPresent workspace.cwd path

end Workspace

/-- What may fail, and changes a workspace either way. -/
abbrev Action (ε α : Type) := ExceptT ε (StateM Workspace) α

namespace Action

/-- An action with its failures described anew. -/
def describing (describe : ε → δ) (action : Action ε α) : Action δ α :=
  ExceptT.adapt describe action

/-- Replace the files, or fail and leave them. -/
def replaceFiles (change : Tree → Location → Except Refusal Tree) (error : ε) :
    Action ε Unit := do
  let workspace ← get
  match change workspace.files workspace.cwd with
  | .ok files => set { workspace with files }
  | .error _ => throw error

/-- Change the files; what a change that fails has done stays. -/
def changeFiles (change : Tree → Location → Except Refusal Unit × Tree) (error : ε) :
    Action ε Unit := do
  let workspace ← get
  let (result, files) := change workspace.files workspace.cwd
  set { workspace with files }
  match result with
  | .ok () => return ()
  | .error _ => throw error

/-- Run a command. -/
def launch (machine : Machine) (command : Command) : Action ε (Option Finished) := do
  let (finished, workspace) := (← get).launch machine command
  set workspace
  return finished

end Action

/-- A launch is recorded after the earlier ones, whatever comes of it. -/
@[simp]
theorem Workspace.launches_launch (machine : Machine) (command : Command)
    (workspace : Workspace) :
    (workspace.launch machine command).2.launches = workspace.launches ++ [command] := rfl

/-- A launch does not move the working directory. -/
@[simp]
theorem Workspace.cwd_launch (machine : Machine) (command : Command) (workspace : Workspace) :
    (workspace.launch machine command).2.cwd = workspace.cwd := rfl

end SnippetCheck
