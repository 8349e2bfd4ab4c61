import SnippetCheck.Compiler.Error
import SnippetCheck.Document
import SnippetCheck.Manifest.Basic
import SnippetCheck.Text.Utf8

/-!
# Classpaths

The classpath is a list of entries between colons. It comes from the manifest alone, or from
a command that exports it and the manifest. No entry is blank.
-/

namespace SnippetCheck.Compiler

open SnippetCheck.Text

/-- What stands between the entries of a classpath. -/
def separator : Char := ':'

/-- A command that exports a classpath. -/
structure Exporter where
  /-- The program and its arguments, where the SDK version may have to be filled in. -/
  command : List String
  /-- The directory that it runs in. -/
  dir : String
  /-- The file that it writes the classpath to, if not its output. -/
  output : Option String
  deriving DecidableEq, Repr

/-- Where a classpath comes from. -/
structure Classpath where
  /-- The command that exports the first entries. -/
  exporter : Option Exporter
  /-- The entries after those. -/
  entries : List String
  deriving DecidableEq, Repr

/-- Where the SDK version is filled in. -/
def versionMark : List Char := "\x7bversion\x7d".toList

/-- A text with every occurrence of a word, found from the left, replaced. -/
def replaceWord (word replacement : List Char) (s : List Char) : List Char :=
  match s with
  | [] => []
  | c :: s =>
    if word.isPrefixOf (c :: s) && !word.isEmpty then
      replacement ++ replaceWord word replacement ((c :: s).drop word.length)
    else c :: replaceWord word replacement s
termination_by s.length
decreasing_by
  · have h : word ≠ [] := by rintro rfl; simp_all
    have := List.length_pos_iff.2 h
    simp only [List.length_drop, List.length_cons]
    omega
  · simp

/-- A classpath of some entries, without those that are blank. -/
def joinEntries (entries : List (List Char)) : Except CompileError String :=
  match (entries.map trim).filter fun entry => !entry.isEmpty with
  | [] => .error .emptyClasspath
  | entries => .ok (String.ofList (joinWith separator entries))

namespace Exporter

/-- The command line for an SDK version. -/
def commandLine (exporter : Exporter) (version : SdkVersion) : List String :=
  exporter.command.map fun part =>
    String.ofList (replaceWord versionMark version.text.toList part.toList)

/-- What a command that has ended exported. -/
def exported (exporter : Exporter) (finished : Finished) : Action CompileError (List Char) :=
  match exporter.output with
  | none => return readBytes finished.output
  | some path => do
    match (← get).readText path with
    | .ok text => return text.toList
    | .error _ => throw (.classpathOutput path)

/-- Run the command and read what it exports. -/
def run (exporter : Exporter) (machine : Machine) (version : SdkVersion) :
    Action CompileError (List Char) := do
  let line := exporter.commandLine version
  let shown := " ".intercalate line
  match line with
  | [] => throw .emptyClasspath
  | program :: args =>
    match ← Action.launch machine { program, args, dir := some exporter.dir } with
    | none => throw (.classpathLaunch shown)
    | some finished =>
      if finished.status.isSuccess then exporter.exported finished
      else
        let errors := String.ofList (trim (readBytes finished.errors))
        throw (.classpathCommand shown finished.status errors)

end Exporter

namespace Classpath

/-- The classpath that a manifest describes under a root. -/
def ofSection (given : ClasspathSection) (root : String) : Classpath where
  exporter := given.command.map fun command => {
    command := command.value
    dir := match given.cwd with
      | some cwd => Path.join root cwd
      | none => root
    output := given.output.map (Path.join root) }
  entries := given.entries

/-- The classpath for an SDK version. -/
def resolve (classpath : Classpath) (machine : Machine) (version : SdkVersion) :
    Action CompileError String := do
  let given := classpath.entries.map String.toList
  match classpath.exporter with
  | none => liftExcept (joinEntries given)
  | some exporter =>
    let text ← exporter.run machine version
    liftExcept (joinEntries (splitAt separator (trim text) ++ given))

end Classpath

end SnippetCheck.Compiler
