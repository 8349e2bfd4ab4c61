import SnippetCheck.Files.Change
import SnippetCheck.Json.Reader
import SnippetCheck.Json.Record
import SnippetCheck.Json.Writer
import SnippetCheck.SdkVersion

/-!
# Stored State

What a run leaves for the next one is stored in JSON documents. A document that cannot be
used is no reason to stop: the next run starts without it.
-/

namespace SnippetCheck

open Files

/-- Why a stored document cannot be used. -/
inductive StateError where
  /-- There is no file. -/
  | missing (path : String)
  /-- The file cannot be read as text. -/
  | unreadable (path : String)
  /-- The text is no such document. -/
  | corrupt (path : String)
  /-- The document belongs to another SDK version. -/
  | otherVersion (path found expected : String)
  deriving DecidableEq, Repr

namespace StateError

/-- The message of an error. -/
def message : StateError → String
  | .missing path => s!"'{path}' does not exist"
  | .unreadable path => s!"failed to read '{path}'"
  | .corrupt path => s!"'{path}' is not valid JSON, ignoring it"
  | .otherVersion path found expected => s!"'{path}' was built for SDK {found}, not {expected}"

/-- Whether there is no file at all. -/
def isMissing : StateError → Bool
  | .missing _ => true
  | _ => false

/-- Whether something is worth saying about an error. The first run finds no file, and a new
SDK version makes what was stored useless; neither is a fault. -/
def isFault : StateError → Bool
  | .missing _ | .otherVersion _ _ _ => false
  | .unreadable _ | .corrupt _ => true

end StateError

/-- The value that a stored document holds. -/
def Workspace.loadDocument (workspace : Workspace) (path : String)
    (decode : Json.Value → Option α) : Except StateError α :=
  match workspace.readText path with
  | .error .notFound => .error (.missing path)
  | .error _ => .error (.unreadable path)
  | .ok text =>
    match (Json.ofText? text).bind decode with
    | some value => .ok value
    | none => .error (.corrupt path)

end SnippetCheck
