import SnippetCheck.Ordered
import SnippetCheck.Snippet
import SnippetCheck.State.Stored

/-!
# Baselines

A baseline lists failures that are accepted. An entry names a snippet by its content hash,
its document and its rank: a snippet that was edited or moved counts again.
-/

namespace SnippetCheck

/-- An accepted failure. -/
structure BaselineEntry where
  /-- The hash of the content. -/
  hash : ContentHash
  /-- The path of the document. -/
  file : String
  /-- The rank in the document. -/
  snippet : Nat
  deriving DecidableEq, Repr

namespace BaselineEntry

/-- The entry that accepts a snippet's failure. -/
def of (snippet : Snippet) : BaselineEntry :=
  ⟨snippet.hash, snippet.id.file, snippet.id.index⟩

/-- Where the snippet stands. -/
def id (entry : BaselineEntry) : SnippetId :=
  ⟨entry.file, entry.snippet⟩

/-- Entries are ordered by document, then by rank, then by hash. -/
instance : Ord BaselineEntry :=
  ⟨compareLex (compareOn file) (compareLex (compareOn snippet) (compareOn fun entry =>
    entry.hash.text))⟩

/-- The stored form of an entry. -/
def toJson (entry : BaselineEntry) : Json.Value :=
  .ofMembers [("hash", .ofText entry.hash.text), ("file", .ofText entry.file),
    ("snippet", .ofNat entry.snippet)]

/-- The entry in a stored form. -/
def ofJson? (value : Json.Value) : Option BaselineEntry := do
  let record ← Json.Record.ofValue? ["hash", "file", "snippet"] value
  let hash ← record.required "hash" Json.Value.text?
  let file ← record.required "file" Json.Value.text?
  let snippet ← record.required "snippet" Json.Value.natural?
  return ⟨⟨hash⟩, file, snippet⟩

end BaselineEntry

/-- A set of accepted failures. -/
structure Baseline where
  /-- The entries, in their order. -/
  entries : List BaselineEntry
  deriving DecidableEq, Repr

namespace Baseline

/-- The baseline that accepts nothing. -/
def empty : Baseline := ⟨[]⟩

/-- Accept a failure. -/
def insert (baseline : Baseline) (entry : BaselineEntry) : Baseline :=
  ⟨Ordered.insert (fun entry => entry) entry baseline.entries⟩

/-- The baseline of several entries. -/
def ofList (entries : List BaselineEntry) : Baseline :=
  ⟨Ordered.ofList (fun entry => entry) entries⟩

/-- How many failures the baseline accepts. -/
def size (baseline : Baseline) : Nat :=
  baseline.entries.length

/-- Whether the baseline accepts nothing. -/
def isEmpty (baseline : Baseline) : Bool :=
  baseline.entries.isEmpty

/-- Whether the failure of a snippet is accepted. -/
def accepts (baseline : Baseline) (snippet : Snippet) : Bool :=
  baseline.entries.contains (BaselineEntry.of snippet)

/-- The stored document of a baseline. -/
def toJson (baseline : Baseline) : Json.Value :=
  .array (baseline.entries.map BaselineEntry.toJson)

/-- The baseline in a stored document. -/
def ofJson? (value : Json.Value) : Option Baseline :=
  (value.list? BaselineEntry.ofJson?).map ofList

/-- The text of the stored document. -/
def toText (baseline : Baseline) : String :=
  Json.prettyText baseline.toJson ++ "\n"

/-- Load a baseline. -/
def load (workspace : Workspace) (path : String) : Except StateError Baseline :=
  workspace.loadDocument path ofJson?

/-- Store a baseline. -/
def save (baseline : Baseline) (path : String) : Action FileError Unit :=
  Action.writeText path baseline.toText

end Baseline

end SnippetCheck
