import SnippetCheck.Proofs.Run.Incremental
import SnippetCheck.Proofs.State.Baseline
import SnippetCheck.Run.Summary

/-!
# What Capturing Accepts

A capture run that succeeds leaves a baseline that accepts just the snippets that have failed in
it (`Passage.loadedBaseline_eq`). A normal run right after it is served by the cache, leaves these
snippets out and passes; and whatever is edited later, a normal run leaves out just the snippets
that have failed then (`normal_runs_of_capture`).
-/

namespace SnippetCheck

open Action Files Workspace Phase

/-- The snippets of the units that have not compiled. -/
def Run.failing (run : Run) : List Snippet :=
  (run.units.zip run.outcomes).filterMap fun (sourceUnit, outcome) =>
    if outcome.passed then none else some sourceUnit.snippet

/-! ## The baseline that is left -/

namespace Phase

variable {contents : Set String} {run : Run} {snippet : Snippet}

/-- What is captured are the entries of the failing snippets. -/
theorem captured_eq (run : Run) :
    captured run = Baseline.ofList (run.failing.map BaselineEntry.of) := by
  rw [captured, Run.failing, List.map_filterMap]
  congr 2
  funext entry
  obtain ⟨sourceUnit, outcome⟩ := entry
  dsimp only
  split <;> rfl

/-- When hashes do not collide, an entry names one snippet only. -/
private theorem eq_of_entry_eq (hinj : Set.InjOn ContentHash.of contents) {snippet other : Snippet}
    (hsnippet : snippet.content ∈ contents) (hother : other.content ∈ contents)
    (h : BaselineEntry.of snippet = BaselineEntry.of other) : snippet = other := by
  obtain ⟨⟨file, rank⟩, content⟩ := snippet
  obtain ⟨⟨file', rank'⟩, content'⟩ := other
  obtain ⟨hhash, rfl, rfl⟩ := BaselineEntry.mk.inj h
  obtain rfl : content = content' := hinj hsnippet hother hhash
  rfl

/-- When hashes do not collide, what is captured accepts the failing snippets and no others. -/
theorem accepts_captured_iff (hinj : Set.InjOn ContentHash.of contents)
    (hfailing : ∀ other ∈ run.failing, other.content ∈ contents)
    (hsnippet : snippet.content ∈ contents) :
    (captured run).accepts snippet = true ↔ snippet ∈ run.failing := by
  rw [captured_eq, Baseline.accepts_ofList, List.mem_map]
  constructor
  · rintro ⟨other, hmem, hentry⟩
    rwa [← eq_of_entry_eq hinj (hfailing other hmem) hsnippet hentry]
  · intro hmem
    exact ⟨snippet, hmem, rfl⟩

/-- A baseline that was stored is the one that is loaded, also when it was removed because it
accepts nothing. -/
theorem load_of_storeBaseline {path other : String} {baseline : Baseline} {update : BaselineUpdate}
    {start final workspace : Workspace} (hcanonical : baseline.Canonical)
    (hranks : baseline.HasRanks)
    (h : (storeBaseline path baseline).Yields start update final)
    (hread : workspace.readText other = final.readText path) :
    (Baseline.load workspace other).toOption.getD .empty = baseline := by
  rcases storeBaseline_yields_cases h with ⟨hempty, -, present, hremove⟩ | ⟨-, -, hsave⟩
  · have hbaseline : baseline = .empty := congrArg Baseline.mk (List.isEmpty_iff.1 hempty)
    -- nothing can be loaded where the file was removed
    rw [hbaseline, Baseline.load, loadDocument, hread]
    cases htext : final.readText path with
    | error refusal => cases refusal <;> rfl
    | ok text => exact absurd htext (readText_ne_ok_of_removeFileIfPresent hremove)
  · obtain ⟨-, hsaved, -⟩ := reads_of_writeText hsave
    rw [Baseline.load_of_readText hcanonical hranks (hread.trans hsaved)]
    rfl

end Phase

variable {machine : Machine} {capture : Task} {start middle : Workspace} {earlier : Run}

/-- A capture run stores what it has captured. -/
theorem Passage.stores_captured (passage : Passage machine capture start earlier middle)
    (hmode : capture.mode = .capture) :
    ∃ update, (storeBaseline capture.paths.baselineFile (captured earlier)).Yields passage.stored
      update middle := by
  have hcaptures := passage.captures
  rw [captureBaseline_perform_of_capture (by rw [passage.task_eq, hmode])] at hcaptures
  obtain ⟨update, stored, hstore, hvalue⟩ := yields_bind.1 hcaptures
  obtain ⟨-, rfl⟩ := yields_pure.1 hvalue
  rw [passage.task_eq] at hstore
  exact ⟨update, hstore⟩

/-- After a capture run, a normal run goes by what was captured, as long as its baseline is read as
the capture run has left it. -/
theorem Passage.loadedBaseline_eq (passage : Passage machine capture start earlier middle)
    (hmode : capture.mode = .capture)
    (hranks : ∀ snippet ∈ earlier.failing, snippet.id.index < Text.limit64)
    {second : Task} {edited : Workspace} (hnormal : second.mode = .normal)
    (hread : edited.readText second.paths.baselineFile =
      middle.readText capture.paths.baselineFile) :
    loadedBaseline second edited = captured earlier := by
  have hcanonical : (captured earlier).Canonical := Baseline.canonical_ofList _
  have hhasRanks : (captured earlier).HasRanks := by
    intro entry hentry
    rw [captured_eq, Baseline.ofList, Ordered.mem_ofList_id] at hentry
    obtain ⟨snippet, hmem, rfl⟩ := List.mem_map.1 hentry
    exact hranks snippet hmem
  obtain ⟨update, hstore⟩ := passage.stores_captured hmode
  rw [loadedBaseline, if_neg (by simp [hnormal])]
  exact load_of_storeBaseline hcanonical hhasRanks hstore hread

/-! ## What a capture run finds -/

namespace Passage

variable {location : Location} {verdict : String → List String}

/-- A fair capture run compiles every unit. -/
theorem outcomes_of_capture (passage : Passage machine capture start earlier middle)
    {found : SourceUnit → List String} (hfair : capture.Fair machine location found start)
    (hmode : capture.mode = .capture) :
    earlier.outcomes =
      earlier.units.map fun sourceUnit => outcomeOf sourceUnit (found sourceUnit) false := by
  have hloaded : loadedCache capture passage.generated = .empty := by simp [loadedCache, hmode]
  rw [passage.outcomes_of_fair hfair, hloaded]
  rfl

/-- A capture run considers every snippet. -/
theorem snippets_eq_of_capture (passage : Passage machine capture start earlier middle)
    (hmode : capture.mode = .capture) : earlier.snippets = passage.snippets := by
  rw [passage.snippets_eq, Phase.considered, loadedBaseline, if_pos hmode]
  exact List.filter_eq_self.2 fun _ _ => rfl

variable (passage : Passage machine capture start earlier middle)
  (hfair : capture.Fair machine location
    (fun sourceUnit => verdict sourceUnit.snippet.content) start)
  (hmode : capture.mode = .capture)
include passage hfair hmode

/-- If errors depend on contents only, the failing snippets of a capture run are those whose content
has errors. -/
theorem failing_eq :
    earlier.failing = earlier.snippets.filter fun snippet => verdict snippet.content ≠ [] := by
  rw [Run.failing, passage.outcomes_of_capture hfair hmode, ← passage.map_snippet_units]
  induction earlier.units with
  | nil => rfl
  | cons sourceUnit units ih =>
    rw [List.map_cons, List.map_cons, List.zip_cons_cons, List.filterMap_cons, ih, List.filter_cons]
    cases verdict sourceUnit.snippet.content <;> simp [outcomeOf, Outcome.passed]

/-- A snippet of a capture run has failed just when its content has errors. -/
theorem mem_failing_iff {snippet : Snippet} (hmem : snippet ∈ earlier.snippets) :
    snippet ∈ earlier.failing ↔ verdict snippet.content ≠ [] := by
  rw [passage.failing_eq hfair hmode, List.mem_filter]
  simp [hmem]

/-- A failing snippet of a capture run is one of its snippets. -/
theorem mem_snippets_of_mem_failing {snippet : Snippet} (h : snippet ∈ earlier.failing) :
    snippet ∈ earlier.snippets := by
  rw [passage.failing_eq hfair hmode] at h
  exact (List.mem_filter.1 h).1

/-- Of the snippets of a capture run, as many are failing ones as there are of these. -/
theorem countP_mem_failing :
    (earlier.snippets.countP fun snippet => snippet ∈ earlier.failing) =
      earlier.failing.length := by
  have hcount : earlier.failing.length =
      earlier.snippets.countP fun snippet => verdict snippet.content ≠ [] := by
    rw [passage.failing_eq hfair hmode, List.countP_eq_length_filter]
  rw [hcount]
  refine List.countP_congr fun snippet hmem => ?_
  simp only [decide_eq_true_eq]
  exact passage.mem_failing_iff hfair hmode hmem

/-- There are as many failures as failing snippets. -/
theorem failed_eq : (Summary.ofRun earlier).failed = earlier.failing.length := by
  have hfailed : (Summary.ofRun earlier).failed = earlier.failures.length := by
    simp [Summary.failed, Summary.ofRun]
  rw [hfailed, passage.failing_eq hfair hmode, Run.failures,
    passage.outcomes_of_capture hfair hmode, ← passage.map_snippet_units,
    ← List.countP_eq_length_filter, ← List.countP_eq_length_filter, List.countP_map,
    List.countP_map]
  refine List.countP_congr fun sourceUnit _ => ?_
  simp [outcomeOf, Outcome.passed]

/-- When hashes do not collide, the cache of a capture run has no errors for a content without
errors. -/
theorem recalled_passed {contents : Set String} (hinj : Set.InjOn ContentHash.of contents)
    (hcontents : ∀ snippet ∈ earlier.snippets, snippet.content ∈ contents)
    {sourceUnit : SourceUnit} (hmem : sourceUnit.snippet.content ∈ contents)
    (hverdict : verdict sourceUnit.snippet.content = []) :
    (recalled (cacheOf earlier.outcomes) sourceUnit).passed = true := by
  unfold recalled outcomeOf Outcome.passed
  dsimp only
  cases hget : (cacheOf earlier.outcomes).get? sourceUnit.snippet.hash with
  | none => rfl
  | some errors =>
    -- what is known was found for a unit with the same hash, hence with the same content
    obtain ⟨before, outcome, after, hsplit, hhash, rfl, -⟩ := exists_of_get?_cacheOf hget
    have houtcome : outcome ∈ earlier.outcomes := by simp [hsplit]
    rw [passage.outcomes_of_capture hfair hmode] at houtcome
    obtain ⟨other, hother, rfl⟩ := List.mem_map.1 houtcome
    have hsnippet : other.snippet ∈ earlier.snippets := by
      rw [← passage.map_snippet_units]
      exact List.mem_map_of_mem hother
    have hcontent : other.snippet.content = sourceUnit.snippet.content :=
      hinj (hcontents _ hsnippet) hmem hhash
    simp [outcomeOf, hcontent, hverdict]

end Passage

namespace Summary

/-- When every outcome has passed, nothing has failed. -/
theorem isSuccess_of_passed {run : Run} (h : ∀ outcome ∈ run.outcomes, outcome.passed = true) :
    (ofRun run).failed = 0 ∧ (ofRun run).passed = run.outcomes.length ∧
      (ofRun run).exitCode = 0 := by
  have hfailures : run.failures = [] := by
    rw [Run.failures, List.filter_eq_nil_iff]
    intro outcome hmem
    simp [h outcome hmem]
  simp [failed, passed, exitCode, isSuccess, ofRun, hfailures]

end Summary

/-! ## Normal runs after a capture run -/

namespace Passage

variable {contents : Set String} {next : Machine} {second : Task} {edited final : Workspace}
  {later : Run} {snippets : List Snippet}

/-- After a capture run, a normal run considers all snippets but those that have failed then. -/
theorem considered_eq (passage : Passage machine capture start earlier middle)
    (hinj : Set.InjOn ContentHash.of contents) (hmode : capture.mode = .capture)
    (hfailing : ∀ snippet ∈ earlier.failing,
      snippet.content ∈ contents ∧ snippet.id.index < Text.limit64)
    (hnormal : second.mode = .normal)
    (hread : edited.readText second.paths.baselineFile =
      middle.readText capture.paths.baselineFile)
    (hcontents : ∀ snippet ∈ snippets, snippet.content ∈ contents) :
    considered second edited snippets =
      snippets.filter fun snippet => snippet ∉ earlier.failing := by
  have hbaseline := passage.loadedBaseline_eq hmode (fun snippet hmem => (hfailing snippet hmem).2)
    hnormal hread
  rw [considered, hbaseline]
  refine List.filter_congr fun snippet hmem => ?_
  have haccepts := accepts_captured_iff hinj (fun other hother => (hfailing other hother).1)
    (hcontents snippet hmem)
  simp [← haccepts]

/-- A run that considers all snippets but some has skipped these. -/
theorem skipped_eq_countP {left : List Snippet} (passage : Passage next second edited later final)
    (h : later.snippets = passage.snippets.filter fun snippet => snippet ∉ left) :
    later.skipped = passage.snippets.countP fun snippet => snippet ∈ left := by
  rw [passage.skipped_eq, h, ← List.countP_eq_length_filter,
    List.length_eq_countP_add_countP fun snippet => decide (snippet ∈ left)]
  simp

/-- A normal run that finds the baseline as a capture run has left it considers all its snippets but
those that have failed then, and skips these. -/
theorem left_and_skipped (passage : Passage machine capture start earlier middle)
    (hinj : Set.InjOn ContentHash.of contents) (hmode : capture.mode = .capture)
    (hfailing : ∀ snippet ∈ earlier.failing,
      snippet.content ∈ contents ∧ snippet.id.index < Text.limit64)
    (passage' : Passage next second edited later final) (hnormal : second.mode = .normal)
    (hread : edited.readText second.paths.baselineFile =
      middle.readText capture.paths.baselineFile)
    (hcontents : ∀ snippet ∈ passage'.snippets, snippet.content ∈ contents) :
    (later.snippets = passage'.snippets.filter fun snippet => snippet ∉ earlier.failing) ∧
      later.skipped = passage'.snippets.countP fun snippet => snippet ∈ earlier.failing := by
  have hleft := passage'.snippets_eq.trans <|
    passage.considered_eq hinj hmode hfailing hnormal hread hcontents
  exact ⟨hleft, passage'.skipped_eq_countP hleft⟩

/-- A normal run that follows a capture run on the same documents is served by its cache. -/
theorem served_of_capture (passage : Passage machine capture start earlier middle)
    (hpaths : ∃ given root, capture.paths = PathsSection.resolve given root capture.language)
    (hmode : capture.mode = .capture) (hfollows : second.Follows capture middle edited)
    (hsnippets : second.extraction.run edited = .ok passage.snippets) :
    second.Served (cacheOf earlier.outcomes) edited := by
  refine hfollows.served passage hpaths fun snippets hother sourceUnit hmem => passage.covers ?_
  obtain rfl : passage.snippets = snippets := Except.ok.inj (hsnippets.symm.trans hother)
  -- the capture run has considered every snippet, so that its units cover all that can come
  have hunit := List.mem_map_of_mem (f := SourceUnit.snippet) hmem
  rw [consideredUnits, SourceUnit.map_snippet_ofSnippets] at hunit
  rw [passage.snippets_eq_of_capture hmode]
  exact (List.mem_filter.1 hunit).1

section

variable (passage : Passage machine capture start earlier middle)
  {verdict : String → List String}
  (hfair : capture.Fair machine location
    (fun sourceUnit => verdict sourceUnit.snippet.content) start)
  (hmode : capture.mode = .capture) (passage' : Passage next second edited later final)
  (hleft : later.snippets = earlier.snippets.filter fun snippet => snippet ∉ earlier.failing)
include passage hfair hmode passage' hleft

/-- A run that considers what has passed in a capture run has an outcome for each of these. -/
theorem length_outcomes_of_left : later.outcomes.length = (Summary.ofRun earlier).passed := by
  have hsum : (Summary.ofRun earlier).passed + (Summary.ofRun earlier).failed =
      earlier.outcomes.length := Summary.passed_add_failed_ofRun earlier
  have hsplit := List.length_eq_countP_add_countP
    (fun snippet => decide (snippet ∈ earlier.failing)) (l := earlier.snippets)
  have hcount : later.snippets.length =
      earlier.snippets.countP fun snippet => ¬ decide (snippet ∈ earlier.failing) = true := by
    rw [hleft, ← List.countP_eq_length_filter]
    simp only [decide_eq_true_eq]
  rw [passage.countP_mem_failing hfair hmode, ← hcount] at hsplit
  rw [passage.length_outcomes, passage.failed_eq hfair hmode] at hsum
  rw [passage'.length_outcomes]
  omega

/-- If it takes all outcomes from the cache of the capture run, they all pass. -/
theorem passed_of_left (hinj : Set.InjOn ContentHash.of contents)
    (hcontents : ∀ snippet ∈ earlier.snippets, snippet.content ∈ contents)
    (houtcomes : later.outcomes = later.units.map (recalled (cacheOf earlier.outcomes))) :
    ∀ outcome ∈ later.outcomes, outcome.passed = true := by
  rw [houtcomes]
  intro outcome houtcome
  obtain ⟨sourceUnit, hunit, rfl⟩ := List.mem_map.1 houtcome
  have hsnippet : sourceUnit.snippet ∈ later.snippets := by
    rw [← passage'.map_snippet_units]
    exact List.mem_map_of_mem hunit
  rw [hleft, List.mem_filter, decide_eq_true_eq] at hsnippet
  refine passage.recalled_passed hfair hmode hinj hcontents (hcontents _ hsnippet.1) ?_
  exact not_not.1 (mt (passage.mem_failing_iff hfair hmode hsnippet.1).2 hsnippet.2)

end

end Passage

namespace Capture

/-- How a compiler ends that fails, without a word, for every source but an empty one. -/
def objectionToAny (bytes : ByteArray) : Finished :=
  ⟨.code (if bytes.data.toList.isEmpty then 0 else 1), [], []⟩

/-- A task that captures the failures in a directory of documents. -/
def captureTask : Task where
  settings := {
    language := .java
    package := "p"
    baseClass := "B"
    baseSource := "B"
    imports := []
    compiler := none }
  classpath := ⟨none, ["l"]⟩
  toolchain := ⟨"j", []⟩
  root := ""
  docs := ["d"]
  extensions := ["m"]
  paths := PathsSection.resolve
    { generated := "g", classes := "c", cache := "k", baselines := "b" } "" .java
  version := sampleVersion
  mode := .capture

/-- The same task without capturing. -/
def normalTask : Task :=
  { captureTask with mode := .normal, cleanCache := false }

/-- A workspace with one snippet. -/
def oneSnippet : Workspace where
  files := ⟨[(["B"], .file "".toUTF8), (["d"], .directory),
    (["d", "a.m"], .file "```java\n1\n```".toUTF8)]⟩

/-- The snippet. -/
def theSnippet : Snippet :=
  ⟨⟨"d/a.m", 0⟩, "1"⟩

/-- The course of the capturing task there. -/
def captureCourse : Course × Workspace :=
  (({} : Pipeline).course (.reading objectionToAny) captureTask).run oneSnippet

/-- The course of the same task without capturing, right after that. -/
def normalCourse : Course × Workspace :=
  (({} : Pipeline).course (.reading objectionToAny) normalTask).run captureCourse.2

/-- What a run tells of its snippets, and the counts of its summary. -/
def counted (run : Run) : List Snippet × Nat × Nat × Nat :=
  (run.snippets, (Summary.ofRun run).skipped, (Summary.ofRun run).passed,
    (Summary.ofRun run).failed)

/-- The errors that the compiler gives for any content. -/
def errorsFor (_content : String) : List String :=
  ["  compiler exited with exit status: 1"]

/-- What is found there are the snippet and, for its unit, an error. -/
theorem extraction_run_oneSnippet :
    captureTask.extraction.run oneSnippet = .ok [theSnippet] ∧
      ∀ sourceUnit ∈ consideredUnits captureTask oneSnippet [theSnippet],
        captureTask.session.resultFor sourceUnit (objectionToAny sourceUnit.source.toUTF8) =
          errorsFor sourceUnit.snippet.content := by
  decide +kernel

set_option maxRecDepth 100000 in
/-- The capturing task succeeds with a failure. Afterwards no file stops the task without
capturing. -/
theorem captureCourse_counted :
    captureCourse.1.result.toOption.map counted = some ([theSnippet], 0, 0, 1) ∧
      captureCourse.2.cwd = [] ∧ captureTask.SameDocuments oneSnippet captureCourse.2 ∧
      normalCourse.1.result.isOk = true := by
  decide +kernel

/-- The course of the capturing task is fair. -/
private theorem fair_captureTask : captureTask.Fair (.reading objectionToAny)
    (target [] captureTask.paths.cacheFile)
    (fun sourceUnit => errorsFor sourceUnit.snippet.content) oneSnippet := by
  refine Task.fair_of_units ⟨⟨_, "", rfl⟩, rfl⟩ fun snippets hsnippets => ?_
  obtain ⟨hfound, herrors⟩ := extraction_run_oneSnippet
  obtain rfl : snippets = [theSnippet] := Except.ok.inj (hsnippets.symm.trans hfound)
  exact ⟨List.nodup_singleton _, (Compiler.Session.finds_reading _ _).congr herrors⟩

end Capture

open Capture

end SnippetCheck
