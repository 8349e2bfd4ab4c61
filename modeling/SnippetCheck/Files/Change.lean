import SnippetCheck.Workspace

/-!
# Changing Files

The changes that a run makes to the files of its workspace, and what is said when one fails.
-/

namespace SnippetCheck

open Files

/-- Why the files could not be read or changed. -/
inductive FileError where
  /-- A directory could not be made. -/
  | notCreated (path : String)
  /-- A file could not be written. -/
  | notWritten (path : String)
  /-- A file or a directory could not be read. -/
  | notRead (path : String)
  /-- A file or a directory could not be removed. -/
  | notRemoved (path : String)
  deriving DecidableEq, Repr

/-- The message of an error. -/
def FileError.message : FileError → String
  | .notCreated path => s!"failed to create {path}"
  | .notWritten path => s!"failed to write {path}"
  | .notRead path => s!"failed to read {path}"
  | .notRemoved path => s!"failed to remove {path}"

/-- The paths of the files directly in a directory that have an extension. -/
def Workspace.filesWithExtension (workspace : Workspace) (dir extension : String) :
    Except Refusal (List String) := do
  let location ← workspace.files.locate workspace.cwd dir
  match workspace.files.get? location with
  | none => throw .notFound
  | some (.file _) => throw .notDirectory
  | some .directory =>
    let paths := (workspace.files.names location).map (Path.join dir)
    return paths.filter fun path =>
      workspace.isFile path && Path.extension? path = some extension

namespace Action

/-- Make a directory and those above it, as far as they are missing. -/
def makeDirectories (path : String) (error : ε) : Action ε Unit :=
  changeFiles (fun files cwd => files.makeDirectories cwd path) error

/-- Make the directories that a file is to stand in. -/
def makeParents (path : String) : Action FileError Unit :=
  match Path.parent? path with
  | some parent => makeDirectories parent (.notCreated parent)
  | none => return ()

/-- Write a text to a file, and make the directories that it stands in. -/
def writeText (path content : String) : Action FileError Unit := do
  makeParents path
  replaceFiles (fun files cwd => files.write cwd path content.toUTF8) (.notWritten path)

/-- Read the text of a file. -/
def readText (path : String) : Action FileError String := do
  match (← get).readText path with
  | .ok text => return text
  | .error _ => throw (.notRead path)

/-- Remove a file if there is one, and tell whether there was. -/
def removeFileIfPresent (path : String) : Action FileError Bool := do
  if (← get).isFile path then
    replaceFiles (fun files cwd => files.removeFile cwd path) (.notRemoved path)
    return true
  else return false

/-- Remove a directory with all that stands in it if there is one, and tell whether there
was. -/
def removeDirectoryIfPresent (path : String) : Action FileError Bool := do
  if (← get).isPresent path then
    changeFiles (fun files cwd => files.removeDirectory cwd path) (.notRemoved path)
    return true
  else return false

/-- Remove several files. -/
def removeFiles : List String → Action FileError Unit
  | [] => return ()
  | path :: paths => do
    replaceFiles (fun files cwd => files.removeFile cwd path) (.notRemoved path)
    removeFiles paths

/-- Remove the files directly in a directory that have an extension, and tell how many there
were. -/
def removeFilesWithExtension (dir extension : String) : Action FileError Nat := do
  let workspace ← get
  if workspace.isPresent dir then
    match workspace.filesWithExtension dir extension with
    | .error _ => throw (.notRead dir)
    | .ok paths =>
      removeFiles paths
      return paths.length
  else return 0

end Action

end SnippetCheck
