import SnippetCheck.Compiler.Error
import SnippetCheck.Files.Change
import SnippetCheck.SdkVersion

/-!
# Run Errors

Why a run stops. An error can have a cause; the chain of an error lists the messages from the
outside in.
-/

namespace SnippetCheck

/-- Why a run stops. -/
inductive RunError where
  /-- Files could not be read or changed. -/
  | files (error : FileError)
  /-- Units could not be compiled. -/
  | compile (error : Compiler.CompileError)
  /-- The baseline could not be stored. -/
  | baseline (path : String) (cause : FileError)
  /-- Errors were noted, among them that directories of documents are missing. -/
  | extraction (count : Nat) (missing : List String)
  /-- There is no such SDK version. -/
  | version (error : SdkVersionError)
  /-- A hook or a further phase stops the run. -/
  | stopped (reason : String)
  /-- The validation failed. -/
  | validation (cause : RunError)
  deriving DecidableEq, Repr

namespace RunError

/-- The messages of an error and its causes, from the outside in. -/
def chain : RunError → List String
  | .files error => [error.message]
  | .compile error => [error.message]
  | .baseline path cause => [s!"failed to write baseline {path}", cause.message]
  | .extraction count missing =>
    let roots := ", ".intercalate missing
    [s!"extraction failed with {count} error(s): documentation root not found: {roots}"]
  | .version error => [error.message]
  | .stopped reason => [reason]
  | .validation cause => "Validation failed" :: cause.chain

/-- The message of an error without its causes. -/
def message (error : RunError) : String :=
  error.chain.headD ""

/-- Every error has a message. -/
theorem chain_ne_nil (error : RunError) : error.chain ≠ [] := by
  cases error <;> simp [chain]

end RunError

end SnippetCheck
