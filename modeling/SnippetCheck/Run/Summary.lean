import SnippetCheck.Run.Basic

/-!
# Summaries

A summary counts the outcomes of a run and lists its failures in the order of reports. Every
outcome counts as a pass or as a failure (`passed_add_failed_ofRun`).
-/

namespace SnippetCheck

/-- A snippet that has not compiled. -/
structure Failure where
  /-- Where the snippet stands. -/
  id : SnippetId
  /-- The name of its class. -/
  className : String
  /-- The lines that describe what the compiler found wrong. -/
  errors : List String
  deriving DecidableEq, Repr

/-- The counts and failures of a run. -/
structure Summary where
  /-- The language of the snippets. -/
  language : Language
  /-- How many snippets have an outcome. -/
  total : Nat
  /-- How many snippets were left out because their failure is accepted. -/
  skipped : Nat
  /-- How many outcomes were taken from the cache. -/
  cached : Nat
  /-- The failures, in order. -/
  failures : List Failure
  /-- What became of the baseline. -/
  baseline : Option BaselineUpdate
  deriving DecidableEq, Repr

namespace Summary

/-- The summary of a run. -/
def ofRun (run : Run) : Summary where
  language := run.task.language
  total := run.outcomes.length
  skipped := run.skipped
  cached := run.outcomes.countP Outcome.cached
  failures := (run.failures.map fun outcome =>
    ⟨outcome.id, outcome.className, outcome.errors⟩).mergeSort fun a b => a.id.le b.id
  baseline := run.baseline

/-- How many snippets have not compiled. -/
def failed (summary : Summary) : Nat :=
  summary.failures.length

/-- How many snippets have compiled. -/
def passed (summary : Summary) : Nat :=
  summary.total - summary.failed

/-- Whether every snippet that counts has compiled. -/
def isSuccess (summary : Summary) : Bool :=
  summary.failures.isEmpty

/-- The exit code for a summary. -/
def exitCode (summary : Summary) : Nat :=
  if summary.isSuccess then 0 else 1

/-- There are no more failures than outcomes. -/
theorem failed_ofRun_le (run : Run) : (ofRun run).failed ≤ (ofRun run).total := by
  simp only [failed, ofRun, List.length_mergeSort, List.length_map, Run.failures]
  exact List.length_filter_le _ _

/-- Every outcome is a pass or a failure. -/
theorem passed_add_failed_ofRun (run : Run) :
    (ofRun run).passed + (ofRun run).failed = (ofRun run).total :=
  Nat.sub_add_cancel (failed_ofRun_le run)

end Summary

end SnippetCheck
