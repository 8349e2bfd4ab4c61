import SnippetCheck.Proofs.Run.Sound
import SnippetCheck.Run.Summary

/-!
# Histories Of Runs

A history begins without a cache file and goes on with edits, which leave that file alone, and with
runs that share it, which may succeed or stop anywhere (`History`). The cache file is sound all
along (`History.sound`). So every run that succeeds gives each unit the errors that compiling it
gives, and what a run with a cleared cache would report differs at most in how many outcomes were
cached (`cache_transparency`).
-/

namespace SnippetCheck

open Action Files Workspace Phase

section History

variable (contents : Set String) (verdict : SdkVersion → String → List String)
  (machine : Machine) (location : Location)

/-- What is assumed of a run in a history: it is fair, its units are about the contents in question,
and what its session finds for them is what `verdict` says of the SDK version and their content. -/
structure Task.FairOn (task : Task) (start : Workspace) : Prop where
  fair : task.Fair machine location
    (fun sourceUnit => verdict task.version sourceUnit.snippet.content) start
  mem : ∀ entry ∈ ((({} : Pipeline).course machine task).run start).1.trail,
    ∀ sourceUnit ∈ entry.2.units, sourceUnit.snippet.content ∈ contents

/-- The workspaces that a history can have reached. -/
inductive History : Workspace → Prop
  /-- There is no cache file at the beginning. -/
  | start {workspace : Workspace} (hnone : workspace.files.fileAt? location = none) :
    History workspace
  /-- Anything but the cache file may be edited. -/
  | edit {before after : Workspace} (hbefore : History before)
    (hfile : after.files.fileAt? location = before.files.fileAt? location) : History after
  /-- A run may end in any way. -/
  | run {before : Workspace} (hbefore : History before) {task : Task}
    (hfair : task.FairOn contents verdict machine location before) :
    History ((({} : Pipeline).course machine task).run before).2

end History

variable {contents : Set String} {verdict : SdkVersion → String → List String}
  {machine : Machine} {location : Location} {task : Task} {start : Workspace}

/-- A run leaves a sound cache file, wherever it stops. -/
theorem sound_exec_course (hspares : machine.Spares location)
    (hinj : Set.InjOn ContentHash.of contents)
    (hfair : task.FairOn contents verdict machine location start)
    (hsound : Cache.SoundBytes contents verdict (start.files.fileAt? location)) :
    Cache.SoundBytes contents verdict
      (((({} : Pipeline).course machine task).run start).2.files.fileAt? location) := by
  suffices h : Cache.SoundAt contents verdict start.cwd location
      ((({} : Pipeline).course machine task).run start).2 from h.2
  have hcourse : ∀ entry ∈ ((({} : Pipeline).course machine task).run start).1.trail,
      (entry.2.units.map SourceUnit.className).Nodup ∧
        task.session.Finds machine task.version
          (fun sourceUnit => verdict task.version sourceUnit.snippet.content) entry.2.units ∧
        ∀ sourceUnit ∈ entry.2.units, sourceUnit.snippet.content ∈ contents :=
    fun entry hentry => ⟨hfair.fair.names entry hentry, hfair.fair.finds entry hentry,
      hfair.mem entry hentry⟩
  have hplaced := hfair.fair.placed
  have hstart : Cache.SoundAt contents verdict start.cwd location start := ⟨rfl, hsound⟩
  unfold Pipeline.course at hcourse ⊢
  rw [Pipeline.schedule_default] at hcourse ⊢
  -- extracting and leaving out accepted failures change nothing
  refine Pipeline.holds_performAll_cons hcourse (fun _ => ?_)
    fun extracted _ hextract _ _ hcourse => ?_
  · exact (exec_extract { task } start).symm ▸ hstart
  refine Pipeline.holds_performAll_cons hcourse (fun _ => ?_)
    fun filtered _ hfilter _ _ hcourse => ?_
  · obtain ⟨rfl, -⟩ := extract_perform_yields hextract
    exact (exec_filterBaseline extracted _).symm ▸ hstart
  -- the cache file is no source file, so generating leaves it or removes it
  have hextension : extensionAt? location ≠ some filtered.task.language.extension := by
    obtain ⟨rfl, snippets, diagnostics, -, rfl⟩ := extract_perform_yields hextract
    obtain ⟨rfl, diagnostics, rfl⟩ := filterBaseline_perform_yields hfilter
    rw [leaveOut_eq rfl]
    exact hplaced.extension_ne
  refine Pipeline.holds_performAll_cons hcourse (fun _ => ?_)
    fun generated _ hgenerate _ _ hcourse => ?_
  · obtain ⟨rfl, -⟩ := extract_perform_yields hextract
    obtain ⟨rfl, -⟩ := filterBaseline_perform_yields hfilter
    exact keeps_generate Cache.soundBytes_none hextension _ hstart
  -- compiling stores right outcomes, if it comes to that
  obtain ⟨snippets, diagnostics, -, rfl, hreplace⟩ :=
    Pipeline.exists_readyRun_eq hextract hfilter hgenerate
  refine Pipeline.holds_performAll_cons hcourse (fun hentry => ?_)
    fun compiledRun _ hcompile _ hsoundCompiled hcourse => ?_
  · obtain ⟨hnames, hfinds, hmem⟩ := hentry
    obtain ⟨hcwd, hsoundGenerated⟩ :=
      hplaced.holds_of_replaceUnits hreplace _ Cache.soundBytes_none hsound
    rw [← hcwd]
    exact sound_exec_compile hspares hinj (hplaced.ready_readyRun _ hnames hfinds hreplace) hmem
      hsoundGenerated
  -- capturing failures touches the baseline only
  have hne : location ≠ target start.cwd compiledRun.task.paths.baselineFile := by
    obtain ⟨_, _, _, _, _, _, _, rfl⟩ := compile_perform_yields hcompile
    exact hplaced.ne_baselineFile
  refine Pipeline.holds_performAll_cons hcourse (fun _ => ?_) fun _ _ _ _ hsound _ => hsound
  exact Cache.keeps_soundAt (fun content => keeps_captureBaseline hne) _ hsoundCompiled

/-- The cache file is sound after every history. -/
theorem History.sound (hspares : machine.Spares location)
    (hinj : Set.InjOn ContentHash.of contents) {workspace : Workspace}
    (h : History contents verdict machine location workspace) :
    Cache.SoundBytes contents verdict (workspace.files.fileAt? location) := by
  induction h with
  | start hnone =>
    rw [hnone]
    exact Cache.soundBytes_none
  | edit _ hfile ih =>
    rw [hfile]
    exact ih
  | run _ hfair ih => exact sound_exec_course hspares hinj hfair ih

/-! ## What a successful run reports -/

/-- The failures among right outcomes do not depend on what is cached. -/
private theorem failures_rightOutcome (cache other : Cache) (verdict : String → List String)
    (units : List SourceUnit) :
    (((units.map (rightOutcome cache verdict)).filter fun outcome => !outcome.passed).map
      fun outcome => (⟨outcome.id, outcome.className, outcome.errors⟩ : Failure)) =
    (((units.map (rightOutcome other verdict)).filter fun outcome => !outcome.passed).map
      fun outcome => ⟨outcome.id, outcome.className, outcome.errors⟩) := by
  rw [List.filter_map, List.filter_map, List.map_map, List.map_map]
  rfl

/-- What is captured of right outcomes does not depend on what is cached. -/
private theorem captured_rightOutcome {run clean : Run} {cache other : Cache}
    {verdict : String → List String} (hunits : clean.units = run.units)
    (hrun : run.outcomes = run.units.map (rightOutcome cache verdict))
    (hclean : clean.outcomes = run.units.map (rightOutcome other verdict)) :
    captured clean = captured run := by
  rw [captured, captured, hunits, hrun, hclean, List.zip_map_right, List.zip_map_right,
    List.filterMap_map, List.filterMap_map]
  rfl

/-- Runs with the same units and right outcomes have the same summary, except for how many outcomes
were cached. -/
private theorem exists_summary_eq {run clean : Run} {cache other : Cache}
    {verdict : String → List String} (hlanguage : clean.task.language = run.task.language)
    (hskipped : clean.skipped = run.skipped) (hbaseline : clean.baseline = run.baseline)
    (hrun : run.outcomes = run.units.map (rightOutcome cache verdict))
    (hclean : clean.outcomes = run.units.map (rightOutcome other verdict)) :
    ∃ cached, Summary.ofRun clean = { Summary.ofRun run with cached } := by
  refine ⟨(Summary.ofRun clean).cached, ?_⟩
  simp only [Summary.ofRun, Run.failures, hlanguage, hskipped, hbaseline, hrun, hclean,
    List.length_map]
  rw [failures_rightOutcome other cache]

/-- Runs that have ended with the same snippets and right outcomes have the same summary, except for
how many outcomes were cached. -/
private theorem exists_summary_endedRun_eq (task : Task) (start : Workspace)
    (snippets : List Snippet) (cache other : Cache) (verdict : String → List String)
    (diagnostics later : List Diagnostic) :
    ∃ cached, Summary.ofRun (endedRun { task with cleanCache := true } start snippets
        (rightOutcome other verdict) later) =
      { Summary.ofRun (endedRun task start snippets (rightOutcome cache verdict) diagnostics) with
        cached } :=
  exists_summary_eq rfl rfl
    (congrArg (updateOf task.mode task.paths.baselineFile) (captured_rightOutcome rfl rfl rfl))
    rfl rfl

/-- After every history, a run that succeeds gives each unit exactly the errors that compiling it
under the run's SDK version gives, whether they were cached or not; and if the same run with a
cleared cache succeeds too, the two summaries differ at most in how many outcomes were cached. All
other counts, the failures and the exit code are the same. -/
theorem cache_transparency (hspares : machine.Spares location)
    (hinj : Set.InjOn ContentHash.of contents)
    (hhistory : History contents verdict machine location start)
    (hfair : task.FairOn contents verdict machine location start)
    {run : Run} {final : Workspace}
    (h : (({} : Pipeline).run machine task).Yields start run final) :
    (∃ cache, run.outcomes = run.units.map (rightOutcome cache (verdict task.version))) ∧
    ∀ clean last,
      (({} : Pipeline).run machine { task with cleanCache := true }).Yields start clean last →
      ∃ cached, Summary.ofRun clean = { Summary.ofRun run with cached } := by
  have hsound := hhistory.sound hspares hinj
  have hplaced := hfair.fair.placed
  obtain ⟨snippets, hsnippets, ⟨entry, hentry, hunits⟩, -, hended⟩ := hplaced.run_yields h
  have hnames := hfair.fair.names entry hentry
  have hfinds := hfair.fair.finds entry hentry
  have hmem := hfair.mem entry hentry
  rw [hunits] at hnames hfinds hmem
  -- whatever the cache file held, the units are settled rightly
  have hright (task' : Task) {cache : Cache} {diagnostics : List Diagnostic}
      (hunits' : consideredUnits task' start snippets = consideredUnits task start snippets)
      (hheld : Cache.Held (start.files.fileAt? location) task.version cache) :
      endedRun task' start snippets (settle cache
          fun sourceUnit => verdict task.version sourceUnit.snippet.content) diagnostics =
        endedRun task' start snippets (rightOutcome cache (verdict task.version)) diagnostics :=
    endedRun_congr fun sourceUnit hunit =>
      settle_eq_rightOutcome hsound hheld (hmem sourceUnit (hunits' ▸ hunit))
  obtain ⟨cache, diagnostics, hheld, hrun⟩ := hended hnames _ hfinds
  rw [hright task rfl hheld] at hrun
  refine ⟨⟨cache, by rw [hrun]; rfl⟩, fun clean last hclean => ?_⟩
  obtain ⟨other, hother, -, -, hended'⟩ :=
    @Task.Placed.run_yields _ _ { task with cleanCache := true } _ ⟨hplaced.paths, hplaced.cache⟩
      _ _ hclean
  -- the snippets are the same, and so are the units
  obtain rfl : other = snippets := Except.ok.inj (hother.symm.trans hsnippets)
  obtain ⟨cache', later, hheld', hcleanRun⟩ := hended' hnames _ hfinds
  rw [hright { task with cleanCache := true } rfl hheld'] at hcleanRun
  rw [hrun, hcleanRun]
  exact exists_summary_endedRun_eq task start other cache cache' _ diagnostics later

/-! ## A history with a cached run -/

namespace History

/-- How a compiler ends that fails, without a word, for every source that imports something right
after naming its package, by a name of one letter. -/
def objection (bytes : ByteArray) : Finished :=
  ⟨.code (if bytes.data[12]? = some 0x69 then 1 else 0), [], []⟩

/-- A task on one directory of documents. -/
def sampleTask : Task where
  settings := {
    language := .java
    package := "p"
    baseClass := "B"
    baseSource := "B.java"
    imports := []
    compiler := none }
  classpath := ⟨none, ["c"]⟩
  toolchain := ⟨"javac", []⟩
  root := ""
  docs := ["d"]
  extensions := ["md"]
  paths := PathsSection.resolve {} "" .java
  version := sampleVersion

/-- A workspace with one document, and with one snippet in it. -/
def sampleStart : Workspace where
  files := ⟨[(["B.java"], .file "".toUTF8), (["d"], .directory),
    (["d", "a.md"], .file "```java\n1\n```".toUTF8)]⟩

/-- The source of the unit that the sample task generates there. -/
def sampleSource : String :=
  "package p;\n\n// Source: d/a.md, snippet 0\n@SuppressWarnings(\"all\")\n" ++
    "public class Snippet_java_d_a_md_000 extends B \x7b\n\n" ++
    "    void validate() throws Exception \x7b\n        1\n    \x7d\n\x7d\n"

/-- What the sample task stores there. -/
def sampleCache : String :=
  "\x7b\"sdk_version\":\"1\",\"entries\":\x7b" ++
    "\"6b86b273ff34fce19d6b804eff5a3f5747ada4eaa22f1d49c01e52ddb7875b4b\":[]\x7d\x7d\n"

/-- The workspace that the sample task leaves. -/
def sampleStored : Workspace where
  files := ⟨[(["validation", "cache", "snippet-java-cache.json"], .file sampleCache.toUTF8),
    (["validation", "cache"], .directory),
    (["validation", "build", "snippet-java-classes"], .directory),
    (["validation", "build"], .directory),
    (["validation", "generated", "Snippet_java_d_a_md_000.java"], .file sampleSource.toUTF8),
    (["validation", "generated"], .directory), (["validation"], .directory)] ++
    sampleStart.files.entries⟩
  launches := [sampleTask.session.command "c" "B.java",
    sampleTask.session.command "c:validation/build/snippet-java-classes"
      "validation/generated/Snippet_java_d_a_md_000.java"]

/-- The course of the sample task from a workspace. -/
def sampleCourse (start : Workspace) : Course × Workspace :=
  (({} : Pipeline).course (.reading objection) sampleTask).run start

/-- What has to be computed of a course for it to be fair. -/
def SampleUnits (start : Workspace) : Prop :=
  ∀ entry ∈ (sampleCourse start).1.trail, (entry.2.units.map SourceUnit.className).Nodup ∧
    ∀ sourceUnit ∈ entry.2.units, sourceUnit.snippet.content = "1" ∧
      sampleTask.session.resultFor sourceUnit (objection sourceUnit.source.toUTF8) = []

instance (start : Workspace) : Decidable (SampleUnits start) :=
  inferInstanceAs (Decidable (∀ entry ∈ (sampleCourse start).1.trail, _ ∧ _))

/-- A course of the sample task is fair if its units are as they have to be. -/
private theorem fair_sampleTask {start : Workspace} (hcwd : start.cwd = [])
    (hunits : SampleUnits start) :
    sampleTask.FairOn {"1"} (fun _ _ => []) (.reading objection)
      (target [] sampleTask.paths.cacheFile) start where
  fair := Task.fair_of_reading ⟨⟨{}, "", rfl⟩, by rw [hcwd]⟩ fun entry hentry =>
    ⟨(hunits entry hentry).1, fun sourceUnit hmem => ((hunits entry hentry).2 sourceUnit hmem).2⟩
  mem entry hentry sourceUnit hmem := ((hunits entry hentry).2 sourceUnit hmem).1

/-- What the outcomes of a run tell: whether they were cached, and their errors. -/
def told (run : Run) : List (Bool × List String) :=
  run.outcomes.map fun outcome => (outcome.cached, outcome.errors)

set_option maxRecDepth 100000 in
/-- The sample task succeeds with a pass, and leaves it stored. -/
theorem sampleCourse_sampleStart :
    SampleUnits sampleStart ∧
      (sampleCourse sampleStart).1.result.toOption.map told = some [(false, [])] ∧
      (sampleCourse sampleStart).2 = sampleStored := by
  decide +kernel

set_option maxRecDepth 100000 in
/-- After this, it succeeds with the pass that was stored. -/
theorem sampleCourse_sampleStored :
    SampleUnits sampleStored ∧
      (sampleCourse sampleStored).1.result.toOption.map told = some [(true, [])] := by
  decide +kernel

/-- The sample task succeeds, and leaves what is stored. -/
theorem exists_sampleTask_yields :
    ∃ earlier, (({} : Pipeline).run (.reading objection) sampleTask).Yields sampleStart earlier
      sampleStored := by
  obtain ⟨-, htold, hstored⟩ := sampleCourse_sampleStart
  obtain ⟨earlier, hearlier, -⟩ := Pipeline.exists_run_yields htold
  have hfinal : ((({} : Pipeline).course (.reading objection) sampleTask).run sampleStart).2 =
      sampleStored := hstored
  rw [hfinal] at hearlier
  exact ⟨earlier, hearlier⟩

end History

/-- The second of two runs of the sample task, with its one outcome cached. -/
theorem cache_transparency_sampleTask :
    ∃ run final, (({} : Pipeline).run (.reading History.objection) History.sampleTask).Yields
        History.sampleStored run final ∧ History.told run = [(true, [])] ∧
      ∃ cache, run.outcomes = run.units.map (rightOutcome cache fun _ => []) := by
  have hhistory : History {"1"} (fun _ _ => []) (.reading History.objection)
      (target [] History.sampleTask.paths.cacheFile) History.sampleStored := by
    obtain ⟨hunits, -, hstored⟩ := History.sampleCourse_sampleStart
    rw [← hstored]
    exact .run (.start rfl) (History.fair_sampleTask rfl hunits)
  obtain ⟨hunits, htold⟩ := History.sampleCourse_sampleStored
  obtain ⟨run, hyields, hrun⟩ := Pipeline.exists_run_yields htold
  exact ⟨run, _, hyields, hrun, (cache_transparency (Machine.spares_reading _) (by simp) hhistory
    (History.fair_sampleTask rfl hunits) hyields).1⟩

end SnippetCheck
