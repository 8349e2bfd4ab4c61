import SnippetCheck.Report.Rendering
import SnippetCheck.Run.Pipeline
import SnippetCheck.Run.Summary

/-!
# Validation

A validation carries out the task that a manifest describes for one language, and reports
its summary and its warnings.
-/

namespace SnippetCheck

/-- What a validation leaves open in a manifest. -/
structure ValidationChoice where
  /-- The language. -/
  language : Language
  /-- The SDK version to compile against. -/
  version : SdkVersion
  /-- How to treat the baseline. -/
  mode : Mode := .normal
  /-- Whether to forget the cache first. -/
  cleanCache : Bool := false
  /-- How many compiler processes may run at once, if that is limited. -/
  jobs : Option Nat := none

/-- The task that a manifest describes, under a root and with a toolchain. -/
def Manifest.task (manifest : Manifest) (root : String) (toolchain : Compiler.Toolchain)
    (choice : ValidationChoice) : Task where
  settings := manifest.settings choice.language
  classpath := .ofSection manifest.classpath root
  toolchain := toolchain
  root := root
  docs := manifest.project.docs.value
  extensions := manifest.project.extensions
  paths := manifest.paths.resolve root choice.language
  version := choice.version
  mode := choice.mode
  cleanCache := choice.cleanCache
  jobs := choice.jobs

/-- The toolchain that a manifest gives for a language, in an environment. -/
def Manifest.toolchain (manifest : Manifest) (language : Language)
    (environment : String → Option String) (workspace : Workspace) : Compiler.Toolchain :=
  .discover (.of language) (manifest.settings language).compiler environment workspace

/-- The report of a validation. -/
structure Validation where
  /-- The counts and failures. -/
  summary : Summary
  /-- The warnings, with what they are about. -/
  warnings : List String
  deriving DecidableEq, Repr

namespace Validation

/-- A warning as a report gives it. -/
def warningText (diagnostic : Diagnostic) : String :=
  match diagnostic.location with
  | some location => s!"{diagnostic.message}\n  --> {location}"
  | none => diagnostic.message

/-- The report of a run. -/
def ofRun (run : Run) : Validation where
  summary := .ofRun run
  warnings := run.warnings.map warningText

/-- Validate the snippets of a language. -/
def run (machine : Machine) (manifest : Manifest) (root : String)
    (environment : String → Option String) (choice : ValidationChoice) :
    Action RunError Validation := do
  let toolchain := manifest.toolchain choice.language environment (← get)
  let task := manifest.task root toolchain choice
  let run ← (({} : Pipeline).run machine task).describing .validation
  return ofRun run

/-- The exit code for a validation. -/
def exitCode (validation : Validation) : Nat :=
  validation.summary.exitCode

/-- The counts of a summary in one line. Counts that tell of nothing are left out. -/
def summaryLine (summary : Summary) : String :=
  let skipped := if 0 < summary.skipped then [s!"{summary.skipped} skipped (baseline)"] else []
  let cached := if 0 < summary.cached then [s!"{summary.cached} cached"] else []
  "  |  ".intercalate ([s!"{summary.total} snippets", s!"{summary.passed} passed",
    s!"{summary.failed} failed"] ++ skipped ++ cached)

/-- The lines on a failure. -/
def failureLines (failure : Failure) : List String :=
  s!"[FAIL] {failure.id.describe}" :: failure.errors ++ [""]

/-- The lines on the baseline. -/
def baselineLines : Option BaselineUpdate → List String
  | some (.written path entries) =>
    let accepted := Report.counted entries "snippet"
    [s!"Baseline written to {path} ({accepted})", ""]
  | some (.removed path) => [s!"No failures, baseline {path} removed", ""]
  | none => []

/-- The last line of a report. -/
def verdict (summary : Summary) : String :=
  if summary.isSuccess then "[PASS] All snippets compiled successfully." else summaryLine summary

/-- What is written for a validation. -/
def render (validation : Validation) : Report.Rendering :=
  let summary := validation.summary
  { output := Report.banner s!"{summary.language.displayName} Snippet Validation" ++
      [summaryLine summary, ""] ++ summary.failures.flatMap failureLines ++
      baselineLines summary.baseline ++ [verdict summary]
    errors := validation.warnings.map Report.warning }

end Validation

end SnippetCheck
