import SnippetCheck.Pattern.Search
import SnippetCheck.Shell.Utility.Basic
import SnippetCheck.Text.Lines

/-!
# Searching

The utility that writes the lines of files that hold a pattern.
-/

namespace SnippetCheck.Shell.Utility

open SnippetCheck.Files SnippetCheck.Text

/-- What a search looks for, and what it writes. -/
structure Search where
  /-- Whether nothing is written. -/
  quiet : Bool
  /-- Whether lines are numbered. -/
  numbered : Bool
  /-- Whether the other lines are looked for. -/
  inverted : Bool
  /-- Whether lines are only counted. -/
  counted : Bool
  /-- Whether lines of several files are written with the file. -/
  named : Bool
  /-- What is looked for. -/
  node : Pattern.Node

/-- A basic pattern in the notation of the library's patterns. -/
def extended : List Char → List Char
  | '\\' :: c :: s =>
    if "(){}|+?".toList.contains c then c :: extended s else '\\' :: c :: extended s
  | c :: s => if "(){}|+?".toList.contains c then '\\' :: c :: extended s else c :: extended s
  | [] => []

/-- A text in the notation of the library's patterns. -/
def literal (s : List Char) : List Char :=
  s.flatMap fun c => if "\\.+*?()|[]{}^$#&-~".toList.contains c then ['\\', c] else [c]

/-- The search that options and a pattern ask for. -/
def searchFor? (options : List String) (pattern : String) (several : Bool) : Option Search := do
  let s := pattern.toList
  let s := if hasOption options 'F' then literal s
    else if hasOption options 'E' then s else extended s
  let s := if hasOption options 'x' then "^(?:".toList ++ s ++ ")$".toList else s
  let s := if hasOption options 'i' then "(?i)".toList ++ s else s
  let node ← Pattern.ofText? (String.ofList s)
  return {
    quiet := hasOption options 'q'
    numbered := hasOption options 'n'
    inverted := hasOption options 'v'
    counted := hasOption options 'c'
    named := several && !hasOption options 'h'
    node }

/-- The lines of a text, with their numbers, that a search finds. -/
def Search.found (search : Search) (text : List Char) : List (List Char × Nat) :=
  let lines := splitLines text
  let lines := if lines.getLast? = some [] then lines.dropLast else lines
  lines.zipIdx.filter fun (line, _) => (search.node.firstGroups? line).isSome != search.inverted

/-- What a search writes for the lines that it found in a file. -/
def Search.report (search : Search) (path : String) (found : List (List Char × Nat)) :
    List String :=
  let start := if search.named then s!"{path}:" else ""
  if search.quiet then []
  else if search.counted then [s!"{start}{found.length}"]
  else found.map fun (line, index) =>
    start ++ (if search.numbered then s!"{index + 1}:" else "") ++ String.ofList line

/-- Search a file. The status is that of the whole search so far. -/
def grepFile (search : Search) (state : State) (path : String) : State :=
  match bytesAt state path with
  | .error refusal =>
    let state := state.complain s!"grep: {path}: {describe refusal}"
    if search.quiet && state.status = 0 then state else state.withStatus 2
  | .ok bytes =>
    let found := search.found (readBytes bytes)
    let state := (search.report path found).foldl (fun state line => state.print (line.push '\n'))
      state
    if found.isEmpty || state.status = 2 then state else state.withStatus 0

/-- Write the lines of files, or of the input, that hold a pattern. -/
def grep : Utility := fun args state =>
  let options := optionsOf args
  let rest := (args.drop options.length).dropWhile (· = "--")
  match rest with
  | pattern :: paths =>
    match searchFor? options pattern (1 < paths.length) with
    | some search =>
      (if paths.isEmpty then ["-"] else paths).foldl (grepFile search) (state.withStatus 1)
    | none => (state.complain "grep: invalid pattern").withStatus 2
  | [] => (state.complain "Usage: grep [OPTION]... PATTERNS [FILE]...").withStatus 2

end SnippetCheck.Shell.Utility
