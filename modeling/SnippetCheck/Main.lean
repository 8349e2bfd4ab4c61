import SnippetCheck.CommandLine.Program
import SnippetCheck.Shell.Machine

/-!
# Calling The Program

A call reads the files below the working directory, runs the program on them, and writes back
what has changed. Commands are run by the built-in machine.
-/

namespace SnippetCheck.Call

open Files

/-- Add a directory entry, with all that stands below it, to the entries of a tree. Links are
left out. -/
partial def load (above : Location) (entries : List (Location × Node))
    (entry : IO.FS.DirEntry) : IO (List (Location × Node)) := do
  let here := above ++ [entry.fileName]
  match (← entry.path.symlinkMetadata).type with
  | .dir => (← entry.path.readDir).foldlM (load here) ((here, .directory) :: entries)
  | .file => return (here, .file (← IO.FS.readBinFile entry.path)) :: entries
  | _ => return entries

/-- The path of a location below the working directory. -/
def pathOf (names : List String) : String :=
  "/".intercalate names

/-- Whether what stands at a place is a given node. -/
def isSame : Option Node → Node → Bool
  | some .directory, .directory => true
  | some (.file before), .file after => before.toList = after.toList
  | _, _ => false

/-- Remove from the disk what is in the first tree and not in the second. -/
def removeGone (before after : Tree) (cwd : Location) : IO Unit := do
  let entries := (before.below cwd).mergeSort fun a b => locationLe b.1 a.1
  for (names, node) in entries do
    if (after.get? (cwd ++ names)).map Node.isFile ≠ some node.isFile then
      if node.isFile then IO.FS.removeFile (pathOf names) else IO.FS.removeDir (pathOf names)

/-- Write to the disk what is in the second tree and not in the first. -/
def writeNew (before after : Tree) (cwd : Location) : IO Unit := do
  let entries := (after.below cwd).mergeSort fun a b => locationLe a.1 b.1
  for (names, node) in entries do
    if !isSame (before.get? (cwd ++ names)) node then
      match node with
      | .directory => IO.FS.createDirAll (pathOf names)
      | .file bytes => IO.FS.writeBinFile (pathOf names) bytes

/-- Run the program in the working directory. -/
def run (args : List String) : IO UInt32 := do
  let here ← IO.currentDir
  let cwd := (parts here.toString).filter fun part => part ≠ ""
  let above := (List.range cwd.length).map fun n => (cwd.take (n + 1), Node.directory)
  let files : Tree := ⟨← (← here.readDir).foldlM (load cwd) above⟩
  let javaHome ← IO.getEnv "JAVA_HOME"
  let kotlinHome ← IO.getEnv "KOTLIN_HOME"
  let environment := fun name =>
    if name = "JAVA_HOME" then javaHome else if name = "KOTLIN_HOME" then kotlinHome else none
  let (exit, workspace) := (CommandLine.run Shell.machine environment args).run { files, cwd }
  removeGone files workspace.files cwd
  writeNew files workspace.files cwd
  IO.eprint exit.errors
  IO.print exit.output
  return exit.code.toUInt32

end SnippetCheck.Call

/-- Call the program with the arguments of the command line. -/
def main (args : List String) : IO UInt32 :=
  SnippetCheck.Call.run args
