import SnippetCheck.Compiler.Session
import SnippetCheck.Extraction
import SnippetCheck.Run.Diagnostic

/-!
# Runs

A run validates the snippets of one language. Its task says what it starts from; the rest of
its state is what its phases have found so far.
-/

namespace SnippetCheck

/-- How a run treats the baseline. -/
inductive Mode where
  /-- Accepted failures are left out. -/
  | normal
  /-- Everything is compiled, and the failures become the new baseline. -/
  | capture
  deriving DecidableEq, Repr

/-- What a run is to do. -/
structure Task where
  /-- What units are built from. -/
  settings : Settings
  /-- Where the classpath comes from. -/
  classpath : Compiler.Classpath
  /-- The compiler. -/
  toolchain : Compiler.Toolchain
  /-- The repository root. -/
  root : String
  /-- The directories of documents, relative to the root. -/
  docs : List String
  /-- The extensions of documents. -/
  extensions : List String
  /-- Where generated files go. -/
  paths : LanguagePaths
  /-- The SDK version to compile against. -/
  version : SdkVersion
  /-- How to treat the baseline. -/
  mode : Mode := .normal
  /-- Whether to forget the cache first. -/
  cleanCache : Bool := false
  /-- How many compiler processes may run at once, if that is limited. -/
  jobs : Option Nat := none

namespace Task

/-- The language whose snippets are validated. -/
def language (task : Task) : Language := task.settings.language

/-- Which snippets the task is about. -/
def extraction (task : Task) : Extraction where
  tag := task.language.tag
  base := task.root
  roots := task.docs
  extensions := task.extensions

/-- What units are compiled with. -/
def session (task : Task) : Compiler.Session where
  convention := .of task.language
  toolchain := task.toolchain
  classpath := task.classpath
  baseSource := Path.join task.root task.settings.baseSource
  generatedDir := task.paths.generatedDir
  classesDir := task.paths.classesDir
  jobs := task.jobs

end Task

/-- The result for one unit. -/
structure Outcome where
  /-- Where the snippet stands. -/
  id : SnippetId
  /-- The name of the unit's class. -/
  className : String
  /-- The hash of the snippet's content. -/
  hash : ContentHash
  /-- The lines that describe what the compiler found wrong. -/
  errors : List String
  /-- Whether the result was taken from the cache. -/
  cached : Bool
  deriving DecidableEq, Repr

/-- Whether a unit has compiled. -/
def Outcome.passed (outcome : Outcome) : Bool :=
  outcome.errors.isEmpty

/-- What became of the baseline when failures were captured. -/
inductive BaselineUpdate where
  /-- It was written, with some entries. -/
  | written (path : String) (entries : Nat)
  /-- Nothing failed, and it was removed. -/
  | removed (path : String)
  deriving DecidableEq, Repr

/-- The state of a run. -/
structure Run where
  /-- What the run is to do. -/
  task : Task
  /-- The snippets that are still considered. -/
  snippets : List Snippet := []
  /-- How many snippets were left out because their failure is accepted. -/
  skipped : Nat := 0
  /-- The units of the snippets. -/
  units : List SourceUnit := []
  /-- The results for the units. -/
  outcomes : List Outcome := []
  /-- What became of the baseline. -/
  baseline : Option BaselineUpdate := none
  /-- What was noted. -/
  diagnostics : List Diagnostic := []

namespace Run

/-- Note something. -/
def note (run : Run) (diagnostic : Diagnostic) : Run :=
  { run with diagnostics := run.diagnostics ++ [diagnostic] }

/-- Note a warning. -/
def warn (run : Run) (phase message : String) : Run :=
  run.note { severity := .warning, phase, message }

/-- The errors that were noted. -/
def errors (run : Run) : List Diagnostic :=
  Diagnostic.errors run.diagnostics

/-- The warnings that were noted. -/
def warnings (run : Run) : List Diagnostic :=
  Diagnostic.warnings run.diagnostics

/-- The outcomes of the units that have not compiled. -/
def failures (run : Run) : List Outcome :=
  run.outcomes.filter fun outcome => !outcome.passed

end Run

end SnippetCheck
