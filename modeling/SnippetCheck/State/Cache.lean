import SnippetCheck.Ordered
import SnippetCheck.Snippet
import SnippetCheck.State.Stored

/-!
# Compilation Caches

A cache holds, by the hash of a content, the lines that describe what the compiler found
wrong with it; a content with no such lines has compiled. A stored cache belongs to one SDK
version.
-/

namespace SnippetCheck

/-- Hashes are ordered by their texts. -/
instance : Ord ContentHash := ⟨fun a b => compare a.text b.text⟩

/-- What the compiler found, by content hash. -/
structure Cache where
  /-- The results, in the order of their hashes. -/
  entries : List (ContentHash × List String)
  deriving DecidableEq, Repr

namespace Cache

/-- The cache that holds nothing. -/
def empty : Cache := ⟨[]⟩

/-- The errors found for a hash; none when it is not in the cache. -/
def get? (cache : Cache) (hash : ContentHash) : Option (List String) :=
  (Ordered.find? Prod.fst hash cache.entries).map Prod.snd

/-- Add the errors found for a hash, in the place of earlier ones. -/
def insert (cache : Cache) (hash : ContentHash) (errors : List String) : Cache :=
  ⟨Ordered.insert Prod.fst (hash, errors) cache.entries⟩

/-- How many hashes the cache knows. -/
def size (cache : Cache) : Nat :=
  cache.entries.length

/-- The cache with given results; of several for one hash, the last counts. -/
def ofList (entries : List (ContentHash × List String)) : Cache :=
  ⟨Ordered.ofList Prod.fst entries⟩

/-- The stored document of a cache for an SDK version. -/
def toJson (cache : Cache) (version : SdkVersion) : Json.Value :=
  .ofMembers [
    ("sdk_version", .ofText version.text),
    ("entries", .ofMembers (cache.entries.map fun (hash, errors) =>
      (hash.text, .ofTexts errors)))]

/-- The SDK version and the cache in a stored document. -/
def ofJson? (value : Json.Value) : Option (String × Cache) := do
  let record ← Json.Record.ofValue? ["sdk_version", "entries"] value
  let version ← record.required "sdk_version" Json.Value.text?
  let entries ← record.withDefault "entries" [] fun value =>
    value.map? fun value => value.list? Json.Value.text?
  return (version, ofList (entries.map fun (hash, errors) => (⟨hash⟩, errors)))

/-- The text of the stored document. -/
def toText (cache : Cache) (version : SdkVersion) : String :=
  Json.compactText (cache.toJson version) ++ "\n"

/-- Load the cache for an SDK version. -/
def load (workspace : Workspace) (path : String) (version : SdkVersion) :
    Except StateError Cache :=
  match workspace.loadDocument path ofJson? with
  | .error error => .error error
  | .ok (found, cache) =>
    if found = version.text then .ok cache
    else .error (.otherVersion path found version.text)

/-- Store the cache for an SDK version. -/
def save (cache : Cache) (path : String) (version : SdkVersion) : Action FileError Unit :=
  Action.writeText path (cache.toText version)

end Cache

end SnippetCheck
