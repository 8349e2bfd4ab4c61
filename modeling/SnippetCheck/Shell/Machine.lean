import SnippetCheck.Shell.Evaluation
import SnippetCheck.Workspace

/-!
# The Built-In Machine

The built-in machine runs the shell and the utilities itself. A command is launched if its
directory exists and its program is one of these, by its name or by its path in a directory
of programs; files of the workspace are no programs.
-/

namespace SnippetCheck.Shell

open SnippetCheck.Files

/-- How deep the calls of a script may go. -/
def depth : Nat := 20000

/-- The name of a program that a command names. -/
def programName? (program : String) : Option String :=
  if program.contains '/' then
    ["/bin/", "/usr/bin/"].findSome? fun dir =>
      if program.startsWith dir then some (String.ofList (program.toList.drop dir.length))
      else none
  else some program

/-- Run a program by its name. -/
def runProgram? (name : String) (args : List String) (state : State) : Option (State × Flow) :=
  if name = "sh" then some (startShell (evaluate depth) args state)
  else (Utility.program? name).map fun program => (program args state, .next)

/-- Where a command runs. -/
def directoryFor? (dir : Option String) (cwd : Location) (files : Tree) : Option Location :=
  match dir with
  | none => some cwd
  | some path =>
    match files.locate cwd path with
    | .ok location => if files.holdsDirectory location then some location else none
    | .error _ => none

/-- How a shell has ended. -/
def statusOf (state : State) : Flow → ExitStatus
  | .killed signal => .signal signal
  | _ => .code state.status

/-- The machine that runs the shell and the utilities. -/
def machine : Machine where
  run command cwd files :=
    let words := command.program :: command.args
    let usable := words.all fun word => !word.toList.contains '\x00'
    let launched := do
      let dir ← directoryFor? command.dir cwd files
      let name ← if usable then programName? command.program else none
      runProgram? name command.args { files, cwd := dir }
    match launched with
    | some (state, flow) =>
      (some ⟨statusOf state flow, state.written 1, state.written 2⟩, state.files)
    | none => (none, files)

end SnippetCheck.Shell
