/-!
# Diagnostics Of A Run

A diagnostic is a note about the run itself. What a compiler finds wrong with a snippet is
no diagnostic; it is the outcome for that snippet.
-/

namespace SnippetCheck

/-- How bad it is. -/
inductive Severity where
  /-- The run should fail. -/
  | error
  /-- The run goes on, but someone should look. -/
  | warning
  deriving DecidableEq, Repr

/-- The word for a severity. -/
def Severity.describe : Severity → String
  | .error => "error"
  | .warning => "warning"

/-- A note about a run. -/
structure Diagnostic where
  /-- How bad it is. -/
  severity : Severity
  /-- The phase that noted it. -/
  phase : String
  /-- What there is to say. -/
  message : String
  /-- What it is about, such as a document or a file. -/
  location : Option String := none
  deriving DecidableEq, Repr

namespace Diagnostic

/-- The text of a diagnostic. -/
def describe (diagnostic : Diagnostic) : String :=
  let text := s!"{diagnostic.severity.describe}: {diagnostic.message}"
  match diagnostic.location with
  | some location => s!"{text} (at {location})"
  | none => text

/-- The diagnostics of a severity, in order. -/
def ofSeverity (severity : Severity) (diagnostics : List Diagnostic) : List Diagnostic :=
  diagnostics.filter fun diagnostic => diagnostic.severity = severity

/-- The errors among diagnostics. -/
def errors (diagnostics : List Diagnostic) : List Diagnostic :=
  ofSeverity .error diagnostics

/-- The warnings among diagnostics. -/
def warnings (diagnostics : List Diagnostic) : List Diagnostic :=
  ofSeverity .warning diagnostics

/-- Every diagnostic is an error or a warning. -/
theorem length_errors_add_length_warnings (diagnostics : List Diagnostic) :
    (errors diagnostics).length + (warnings diagnostics).length = diagnostics.length := by
  induction diagnostics with
  | nil => rfl
  | cons diagnostic diagnostics ih =>
    obtain ⟨severity, _, _, _⟩ := diagnostic
    cases severity <;> simp_all [errors, warnings, ofSeverity] <;> omega

end Diagnostic

end SnippetCheck
