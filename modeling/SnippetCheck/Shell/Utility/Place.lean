import SnippetCheck.Shell.Utility.Basic

/-!
# Files And Places

The utilities that make, move and remove files and directories, and those that tell where
something is.
-/

namespace SnippetCheck.Shell.Utility

open SnippetCheck.Files SnippetCheck.Text

/-! ## Changing files -/

/-- Keep changed files, or complain. -/
def orComplain (state : State) (changed : Except Refusal Tree) (complaint : String) : State :=
  match changed with
  | .ok files => { state with files }
  | .error refusal => (state.complain s!"{complaint}: {describe refusal}").withStatus 1

/-- Make directories, with the option `-p` also those above them. -/
def mkdir : Utility := fun args state =>
  let options := optionsOf args
  (args.drop options.length).foldl (fun state path =>
    let above := (Path.parent? path).getD ""
    let complaint := s!"mkdir: cannot create directory ‘{path}’"
    if !hasOption options 'p' && state.files.isPresent state.cwd path then
      (state.complain s!"{complaint}: File exists").withStatus 1
    else if hasOption options 'p' || above = "" || state.files.isDirectory state.cwd above then
      let (made, files) := state.files.makeDirectories state.cwd path
      orComplain { state with files } (made.map fun () => files) complaint
    else (state.complain s!"{complaint}: No such file or directory").withStatus 1)
    (state.withStatus 0)

/-- Make empty files where there are none. -/
def touch : Utility := fun args state =>
  args.foldl (fun state path =>
    if state.files.isPresent state.cwd path then state
    else orComplain state (state.files.write state.cwd path ByteArray.empty)
      s!"touch: cannot touch '{path}'") (state.withStatus 0)

/-- Remove files, with the option `-r` also directories. -/
def rm : Utility := fun args state =>
  let options := optionsOf args
  let forced := hasOption options 'f'
  (args.drop options.length).foldl (fun state path =>
    if forced && !state.files.isPresent state.cwd path then state
    else if hasOption options 'r' && state.files.isDirectory state.cwd path then
      let (removed, files) := state.files.removeDirectory state.cwd path
      orComplain { state with files } (removed.map fun () => files)
        s!"rm: cannot remove '{path}'"
    else orComplain state (state.files.removeFile state.cwd path)
      s!"rm: cannot remove '{path}'") (state.withStatus 0)

/-- The path that something gets when it is put at a place: a directory takes it in. -/
def targetOf (state : State) (source place : String) : String :=
  if state.files.isDirectory state.cwd place then
    Path.join place ((Path.fileName? source).getD "")
  else place

/-- What stands at a path and below it put at another path too. -/
def duplicated (state : State) (source target : String) : Except Refusal Tree := do
  let node ← state.files.node state.cwd source
  let origin ← state.files.locate state.cwd source
  let location ← state.files.locate state.cwd target
  return (state.files.below origin).foldl (fun files (names, node) =>
    files.set (location ++ names) node) (state.files.set location node)

/-- Copy files, with the option `-r` also directories. The last argument is the place. -/
def cp : Utility := fun args state =>
  let paths := operandsOf args
  let place := paths.getLastD ""
  paths.dropLast.foldl (fun state source =>
    if state.files.isDirectory state.cwd source && !hasOption (optionsOf args) 'r' then
      (state.complain s!"cp: -r not specified; omitting directory '{source}'").withStatus 1
    else orComplain state (duplicated state source (targetOf state source place))
      s!"cp: cannot stat '{source}'") (state.withStatus 0)

/-- Move files and directories. The last argument is the place. -/
def mv : Utility := fun args state =>
  let paths := operandsOf args
  let place := paths.getLastD ""
  paths.dropLast.foldl (fun state source =>
    orComplain state (do
      let files ← duplicated state source (targetOf state source place)
      return files.eraseFrom (← state.files.locate state.cwd source))
      s!"mv: cannot stat '{source}'") (state.withStatus 0)

/-! ## Names and places -/

/-- Write the path of the working directory. -/
def pwd : Utility := fun _ state =>
  (state.print (state.directory.push '\n')).withStatus 0

/-- The names in a directory, in order. Those with a leading dot are left out, unless they are
asked for. -/
def listed (state : State) (options : List String) (location : Location) : List String :=
  ((state.files.names location).filter fun name =>
    hasOption options 'A' || !name.startsWith ".").mergeSort fun a b => a ≤ b

/-- Write the names in directories, and the paths of files. -/
def ls : Utility := fun args state =>
  let paths := operandsOf args
  (if paths.isEmpty then ["."] else paths).foldl (fun state path =>
    match state.files.locate state.cwd path with
    | .ok location =>
      match state.files.get? location with
      | some .directory => (listed state (optionsOf args) location).foldl
        (fun state name => state.print (name.push '\n')) state
      | some (.file _) => state.print (path.push '\n')
      | none => (state.complain s!"ls: cannot access '{path}': {describe .notFound}").withStatus 2
    | .error refusal =>
      (state.complain s!"ls: cannot access '{path}': {describe refusal}").withStatus 2)
    (state.withStatus 0)

/-- Write the last name of a path. -/
def basename : Utility := fun args state =>
  let path := args.headD ""
  let name := ((parts path).filter fun part => part ≠ "").getLastD (if path = "" then "" else "/")
  let suffix := args[1]?.getD ""
  let shorter := if suffix ≠ "" && name ≠ suffix && name.endsWith suffix then
    String.ofList (name.toList.take (name.length - suffix.length)) else name
  (state.print (shorter.push '\n')).withStatus 0

/-- Write the path above a path. -/
def dirname : Utility := fun args state =>
  let path := args.headD ""
  let above := match Path.parent? path with
    | some "" | none => if path.startsWith "/" then "/" else "."
    | some above => above
  (state.print (above.push '\n')).withStatus 0

end SnippetCheck.Shell.Utility
