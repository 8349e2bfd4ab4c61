import SnippetCheck.Shell.Utility.Basic

/-!
# Builtins

The utilities that change the variables, the arguments and the working directory of the
shell that calls them.
-/

namespace SnippetCheck.Shell.Utility

open SnippetCheck.Files SnippetCheck.Text

/-- The first line of the input, whether it was ended, and what is left. -/
def takeLine (input : List UInt8) : List UInt8 × Bool × List UInt8 :=
  let line := input.takeWhile (· ≠ 10)
  match input.drop line.length with
  | _ :: rest => (line, true, rest)
  | [] => (line, false, [])

/-- A text without the spaces in front that are among the separators. -/
def skipSpaces (separators s : List Char) : List Char :=
  s.dropWhile fun c => separators.contains c && [' ', '\t'].contains c

/-- What follows a field: spaces, one separator that is no space, and spaces. -/
def afterField (separators s : List Char) : List Char :=
  match skipSpaces separators s with
  | c :: s => if separators.contains c then skipSpaces separators s else c :: s
  | [] => []

/-- Assign the fields of a line to variables. The last one gets what is left of the line. -/
def assignFields (separators : List Char) (s : List Char) : List String → State → State
  | [], state => state
  | [name], state =>
    let text := (skipSpaces separators (skipSpaces separators s).reverse).reverse
    state.assign name (String.ofList text)
  | name :: names, state =>
    let s := skipSpaces separators s
    let field := s.takeWhile fun c => !separators.contains c
    assignFields separators (afterField separators (s.drop field.length)) names
      (state.assign name (String.ofList field))

/-- A line in which backslashes take away the meaning of characters. -/
def unquoted : List Char → List Char
  | '\\' :: c :: s => c :: unquoted s
  | c :: s => c :: unquoted s
  | [] => []

/-- Read a line of the input into variables. -/
def read : Utility := fun args state =>
  let options := optionsOf args
  let (line, ended, rest) := takeLine state.input
  let text := readBytes line
  let text := if hasOption options 'r' then text else unquoted text
  let state := assignFields state.separators text (args.drop options.length)
    { state with input := rest }
  state.withTruth ended

/-- Let other shells see variables, and set those that get a value. -/
def exportNames : Utility := fun args state =>
  args.foldl (fun state arg =>
    let name := String.ofList (arg.toList.takeWhile (· ≠ '='))
    match arg.toList.dropWhile (· ≠ '=') with
    | _ :: value => (state.assign name (String.ofList value)).expose name
    | [] => state.expose name) (state.withStatus 0)

/-- Forget variables. -/
def unset : Utility := fun args state =>
  { state with
    bindings := state.bindings.filter fun entry => !args.contains entry.1
    exported := state.exported.filter fun name => !args.contains name
    status := 0 }

/-- Replace the arguments, or change a setting of the shell. Settings other than the one for
failing commands are not looked at. -/
def setArgs : Utility := fun args state =>
  match args with
  | "--" :: args => { state with args, status := 0 }
  | arg :: args =>
    if arg.startsWith "-" then
      { state with strict := state.strict || arg.contains 'e', status := 0 }
    else if arg.startsWith "+" then
      { state with strict := state.strict && !arg.contains 'e', status := 0 }
    else { state with args := arg :: args, status := 0 }
  | [] => state.withStatus 0

/-- Leave out the first arguments. -/
def shift : Utility := fun args state =>
  { state with args := state.args.drop ((args.head?.bind String.toNat?).getD 1), status := 0 }

/-- Go to a directory. -/
def cd : Utility := fun args state =>
  let path := args.headD "/"
  match state.files.locate state.cwd path with
  | .ok location =>
    if state.files.holdsDirectory location then
      { state with cwd := location, status := 0 }
    else (state.complain s!"sh: 1: cd: can't cd to {path}").withStatus 2
  | .error _ => (state.complain s!"sh: 1: cd: can't cd to {path}").withStatus 2

end SnippetCheck.Shell.Utility
