import SnippetCheck.Proofs.Compiler.Reading
import SnippetCheck.Proofs.Run.Account
import SnippetCheck.Proofs.Run.Capture
import SnippetCheck.Proofs.Run.Tandem

/-!
# Capturing Again

A capture run does not depend on what earlier runs have left, if its commands are blind to the
baseline and its places lie apart: from workspaces that differ in that only, it has the same result,
and leaves the same cache and the same baseline (`captures_of_other_history`). Without these two
conditions it can depend on that (`captures_depend_on_history`).
-/

namespace SnippetCheck

open Action Files Workspace Phase

/-! ## What a capture run leaves -/

namespace Passage

variable {machine : Machine} {task : Task} {start final : Workspace} {run : Run}

/-- Where a file was removed if there was one, there is none. -/
private theorem isFile_of_removeFileIfPresent {path : String} {present : Bool}
    (h : (removeFileIfPresent path).Yields start present final) : final.isFile path = false := by
  rw [← Bool.not_eq_true]
  intro hfile
  obtain ⟨bytes, hnode⟩ := Tree.isFile_iff.1 hfile
  have h := yields_get_bind.1 h
  split at h
  next =>
    obtain ⟨_, removed, hremove, hvalue⟩ := yields_bind.1 h
    obtain ⟨-, rfl⟩ := yields_pure.1 hvalue
    obtain ⟨files, hfiles, rfl⟩ := yields_replaceFiles.1 hremove
    have hgone := Tree.fileAt?_target_of_removeFile hfiles
    rw [Tree.fileAt?_eq_some.2 (Tree.node_eq_ok.1 hnode).2] at hgone
    cases hgone
  next habsent =>
    obtain ⟨-, rfl⟩ := yields_pure.1 h
    exact habsent hfile

/-- A capture run leaves the baseline of its failures, or no baseline if there are none. -/
theorem baseline_of_capture (passage : Passage machine task start run final)
    (hmode : task.mode = .capture) :
    if (captured run).isEmpty then final.isFile task.paths.baselineFile = false
    else final.readText task.paths.baselineFile = .ok (captured run).toText := by
  obtain ⟨update, hstore⟩ := passage.stores_captured hmode
  rcases storeBaseline_yields_cases hstore with
    ⟨hempty, -, present, hremove⟩ | ⟨hentries, -, hsave⟩
  · rw [if_pos hempty]
    exact isFile_of_removeFileIfPresent hremove
  · rw [if_neg (Bool.eq_false_iff.1 hentries)]
    exact (reads_of_writeText hsave).2.1

/-- A capture run leaves out no snippet. -/
theorem skipped_of_capture (passage : Passage machine task start run final)
    (hmode : task.mode = .capture) : run.skipped = 0 := by
  rw [passage.skipped_eq, passage.snippets_eq_of_capture hmode, Nat.sub_self]

/-- No outcome of a capture run is taken from the cache. -/
theorem cached_of_capture (passage : Passage machine task start run final)
    (hmode : task.mode = .capture) (hnames : (run.units.map SourceUnit.className).Nodup) :
    ∀ outcome ∈ run.outcomes, outcome.cached = false := by
  have hloaded : loadedCache task passage.generated = .empty := by simp [loadedCache, hmode]
  obtain ⟨found, houtcomes⟩ := passage.exists_outcomes_eq hnames
  rw [houtcomes, hloaded]
  intro outcome hmem
  obtain ⟨sourceUnit, -, rfl⟩ := List.mem_map.1 hmem
  rfl

end Passage

/-- From workspaces that differ in what earlier runs have left only, a capture run whose commands
are blind to the baseline launches the same commands and has the same result: the same error, or
the same outcomes and the same diagnostics. If it succeeds with distinct class names, it has left
out no snippet and taken no outcome from the cache, and it leaves the same cache and the same
baseline, or no baseline. -/
theorem captures_of_other_history {machine : Machine} {task : Task} {made : Set Location}
    {start other : Workspace} (hmode : task.mode = .capture) (hapart : task.Apart start.cwd made)
    (hblind : task.Blind machine made start) (halike : task.AlikeButHistory made start other) :
    let course := (({} : Pipeline).course machine task).run start
    let again := (({} : Pipeline).course machine task).run other
    again.1.result = course.1.result ∧
    (∃ launched, course.2.launches = start.launches ++ launched ∧
      again.2.launches = other.launches ++ launched) ∧
    ∀ run, course.1.result = .ok run → (run.units.map SourceUnit.className).Nodup →
      run.skipped = 0 ∧ (∀ outcome ∈ run.outcomes, outcome.cached = false) ∧
      (∃ cache, course.2.readText task.paths.cacheFile = .ok cache ∧
        again.2.readText task.paths.cacheFile = .ok cache) ∧
      ((∃ baseline, course.2.readText task.paths.baselineFile = .ok baseline ∧
          again.2.readText task.paths.baselineFile = .ok baseline) ∨
        course.2.isFile task.paths.baselineFile = false ∧
          again.2.isFile task.paths.baselineFile = false) := by
  obtain ⟨hresult, hinStep⟩ := halike.same_course hapart hmode hblind
  refine ⟨hresult, hinStep, fun run hrun hnames => ?_⟩
  obtain ⟨passage⟩ := Pipeline.nonempty_passage (Pipeline.run_yields_iff.2 ⟨hrun, rfl⟩)
  obtain ⟨passage'⟩ :=
    Pipeline.nonempty_passage (Pipeline.run_yields_iff.2 ⟨hresult.trans hrun, rfl⟩)
  refine ⟨passage.skipped_of_capture hmode, passage.cached_of_capture hmode hnames,
    ⟨_, passage.readText_cacheFile hapart.sited.paths,
      passage'.readText_cacheFile hapart.sited.paths⟩, ?_⟩
  -- both leave what was captured, which is the same
  have hbaseline := passage.baseline_of_capture hmode
  have hbaseline' := passage'.baseline_of_capture hmode
  split at hbaseline
  next hempty =>
    rw [if_pos hempty] at hbaseline'
    exact .inr ⟨hbaseline, hbaseline'⟩
  next hentries =>
    rw [if_neg hentries] at hbaseline'
    exact .inl ⟨_, hbaseline, hbaseline'⟩

/-! ## Capturing again -/

/-- A compiler that only reads its source is blind to the baseline and to the directories that may
be missing. -/
theorem Task.Apart.blind_reading {task : Task} {made : Set Location} {start : Workspace}
    {judge : ByteArray → Finished} (hapart : task.Apart start.cwd made)
    (hexporter : task.classpath.exporter = none) : task.Blind (.reading judge) made start := by
  intro snippets _
  refine Compiler.Session.blind_reading hexporter (fun stage hstage => ?_)
    fun sourceUnit hmem stage hstage => ?_
  · obtain ⟨hstate, hmade⟩ := hapart.base stage hstage
    exact ⟨fun hmem => hstate (.inr hmem),
      fun hmem => (hmade hmem.1.1).elim hmem.1.2 hmem.2⟩
  · -- the unit has the extension of the language, the baseline and the directories have not
    have hdir := (SourceUnit.wellNamed_of_mem_ofSnippets hmem).mem_stages_of_pathIn hstage
    refine ⟨fun hbaseline => ?_, fun hmade => hmade.1.2 (hdir (hapart.sources _ hmade.1.1))⟩
    have hextension := Task.extension_ne_of_mem_stateAt hapart.sited.paths (.inr hbaseline)
    exact hapart.generated stage (hdir hextension) (.inr hbaseline)

namespace Recapture

open Capture

/-- The directories that the capturing task makes. -/
def madeDirectories : Set Location :=
  {location | location ∈ [["g"], ["c"], ["k"], ["b"]]}

instance (location : Location) : Decidable (location ∈ madeDirectories) :=
  inferInstanceAs (Decidable (location ∈ [["g"], ["c"], ["k"], ["b"]]))

/-- The capturing task again, after it has run. -/
def captureAgain : Course × Workspace :=
  (({} : Pipeline).course (.reading objectionToAny) captureTask).run captureCourse.2

set_option maxRecDepth 100000 in
/-- What there is after the capturing task has run differs from what there was before in what the
task itself has made. -/
theorem captureCourse_left :
    captureCourse.2.cwd = [] ∧ captureTask.InOrder oneSnippet ∧
      captureTask.InOrder captureCourse.2 ∧
      captureCourse.2.isFile captureTask.paths.baselineFile = true ∧
      ∀ location ∈ (oneSnippet.files.entries ++ captureCourse.2.files.entries).map Prod.fst,
        (target [] captureTask.paths.classesDir <+: location →
          location = target [] captureTask.paths.classesDir) →
        oneSnippet.files.AlikeAt
          {place | place ∈ [target [] captureTask.paths.cacheFile,
            target [] captureTask.paths.baselineFile, ["g", "Snippet_java_d_a_m_000.java"]]}
          {place | place ∈ [["g"], ["c"], ["k"], ["b"], target [] captureTask.paths.classesDir]}
          captureCourse.2.files location := by
  decide +kernel

/-- The places of the capturing task lie apart. -/
private theorem apart_captureTask : captureTask.Apart [] madeDirectories where
  sited := ⟨⟨_, "", rfl⟩, by decide +kernel⟩
  outside := by decide +kernel
  generated := by decide +kernel
  classes := by decide +kernel
  cache := by decide +kernel
  baseline := by decide +kernel
  base := by decide +kernel
  root := by decide
  home := by decide
  state := by
    rintro _ (rfl | rfl)
    · decide +kernel
    · decide +kernel
  sources location hmem := by
    have hall : ∀ location ∈ [["g"], ["c"], ["k"], ["b"]],
        extensionAt? location ≠ some captureTask.language.extension := by decide +kernel
    exact hall location hmem

/-- What the capturing task leaves is alike but for what it has made. -/
private theorem alikeButHistory_captureCourse :
    captureTask.AlikeButHistory madeDirectories oneSnippet captureCourse.2 := by
  obtain ⟨hcwd, hinOrder, hinOrder', -, hfiles⟩ := captureCourse_left
  refine ⟨hcwd, captureCourse_counted.2.2.1, hinOrder, hinOrder', fun location hbelow => ?_⟩
  refine (Tree.alikeAt_of_entries hfiles location hbelow).mono (fun hmem => ?_) fun hmem => ?_
  · have hplaces : location ∈ [target [] captureTask.paths.cacheFile,
        target [] captureTask.paths.baselineFile, ["g", "Snippet_java_d_a_m_000.java"]] := hmem
    simp only [List.mem_cons, List.not_mem_nil, or_false] at hplaces
    rcases hplaces with rfl | rfl | rfl
    · exact .inl (.inl rfl)
    · exact .inl (.inr rfl)
    · exact .inr ⟨"Snippet_java_d_a_m_000.java", by decide +kernel⟩
  · have hplaces : location ∈ [["g"], ["c"], ["k"], ["b"],
        target [] captureTask.paths.classesDir] := hmem
    rcases List.mem_append.1 (show location ∈ [["g"], ["c"], ["k"], ["b"]] ++
        [target [] captureTask.paths.classesDir] from hplaces) with hmade | hclasses
    · exact .inl hmade
    · exact .inr (List.mem_singleton.1 hclasses)

end Recapture

open Recapture Capture

/-- The capturing task finds a failure. When it is repeated, it launches the same commands, finds
the same, and leaves the same baseline. -/
theorem captures_of_other_history_oneSnippet :
    ∃ run launched baseline,
      captureCourse.1.result = .ok run ∧ counted run = ([theSnippet], 0, 0, 1) ∧
      captureCourse.2.launches = launched ∧
      captureCourse.2.readText captureTask.paths.baselineFile = .ok baseline ∧
      captureAgain.1.result = .ok run ∧ captureAgain.2.launches = launched ++ launched ∧
      captureAgain.2.readText captureTask.paths.baselineFile = .ok baseline := by
  obtain ⟨run, hrun, hcounted⟩ := Pipeline.exists_run_yields captureCourse_counted.1
  obtain ⟨hresult, -⟩ := Pipeline.run_yields_iff.1 hrun
  obtain ⟨hagain, ⟨launched, hlaunched, hlaunched'⟩, hleft⟩ :=
    @captures_of_other_history (.reading objectionToAny) _ _ _ _ rfl apart_captureTask
      (apart_captureTask.blind_reading rfl) alikeButHistory_captureCourse
  have hnames : (run.units.map SourceUnit.className).Nodup := by
    obtain ⟨passage⟩ := Pipeline.nonempty_passage hrun
    have hsnippets : run.snippets = [theSnippet] := congrArg Prod.fst hcounted
    have hlength := congrArg List.length passage.map_snippet_units
    rw [hsnippets, List.length_map, List.length_singleton] at hlength
    obtain ⟨sourceUnit, hunits⟩ := List.length_eq_one_iff.1 hlength
    rw [hunits]
    exact List.nodup_singleton _
  obtain ⟨-, -, -, ⟨baseline, hbaseline, hbaseline'⟩ | ⟨hnone, -⟩⟩ := hleft run hresult hnames
  · refine ⟨run, launched, baseline, hresult, hcounted, hlaunched, hbaseline, ?_, ?_, hbaseline'⟩
    · exact hagain.trans hresult
    · exact hlaunched'.trans (congrArg (· ++ launched) hlaunched)
  · have hfile : captureCourse.2.isFile captureTask.paths.baselineFile = true :=
      captureCourse_left.2.2.2.1
    cases hfile.symm.trans hnone

/-! ## What capturing does depend on -/

/-- The entries of the classpath that a compiler is given. -/
def Command.classpathEntries (command : Command) : List String :=
  match command.args with
  | "-cp" :: classpath :: _ =>
    (Text.splitAt Compiler.separator classpath.toList).map String.ofList
  | _ => []

/-- A machine is a function of its arguments, of the file that the last of them names, and of the
files in the directories on the classpath, and changes no file. -/
def Machine.ReadsInputs (machine : Machine) : Prop :=
  ∀ (command : Command) (cwd : Location) (tree other : Tree),
    other.readBytes cwd (command.args.getLast?.getD "") =
      tree.readBytes cwd (command.args.getLast?.getD "") →
    (∀ entry ∈ command.classpathEntries, ∀ name,
      other.readBytes cwd (Path.join entry name) = tree.readBytes cwd (Path.join entry name)) →
    (machine.run command cwd other).1 = (machine.run command cwd tree).1 ∧
      (machine.run command cwd tree).2 = tree

namespace Recapture

/-- Whether a compiler finds a file of a name on its classpath. -/
def holds (name : String) (command : Command) (cwd : Location) (files : Tree) : Bool :=
  command.classpathEntries.any fun entry => (files.readBytes cwd (Path.join entry name)).isOk

/-- A compiler that accepts an empty source, and any other one just when it finds a file of a name
on its classpath. -/
def looking (name : String) : Machine where
  run command cwd files :=
    match files.readBytes cwd (command.args.getLast?.getD "") with
    | .ok bytes =>
      let accepted := bytes.data.toList.isEmpty || holds name command cwd files
      (some ⟨.code (if accepted then 0 else 1), [], []⟩, files)
    | .error _ => (none, files)

/-- It is a function of its inputs. -/
private theorem readsInputs_looking (name : String) : (looking name).ReadsInputs := by
  intro command cwd tree other hsource hclasspath
  have hholds : holds name command cwd other = holds name command cwd tree := by
    unfold holds
    rw [Bool.eq_iff_iff, List.any_eq_true, List.any_eq_true]
    refine exists_congr fun entry => and_congr_right fun hmem => ?_
    rw [hclasspath entry hmem name]
  unfold looking
  dsimp only
  rw [hsource, hholds]
  cases tree.readBytes cwd (command.args.getLast?.getD "") <;> exact ⟨rfl, rfl⟩

/-- The capturing task with the directory of the baseline on its classpath. -/
def watchedTask : Task :=
  { captureTask with classpath := ⟨none, ["b"]⟩ }

/-- The workspace with one snippet, and with a directory for the baseline. -/
def unbaselined : Workspace where
  files := ⟨(["b"], .directory) :: oneSnippet.files.entries⟩

/-- The same workspace with a baseline. -/
def baselined : Workspace where
  files := ⟨(["b", "baseline-java.json"], .file ByteArray.empty) :: unbaselined.files.entries⟩

/-- The capturing task with its sources generated in the directory of classes. -/
def nestedTask : Task :=
  { captureTask with
    paths := PathsSection.resolve
      { generated := "c/snippet-java-classes/g", classes := "c", cache := "k", baselines := "b" } ""
      .java }

/-- The workspace with one snippet, and with a directory of classes. -/
def unobstructed : Workspace where
  files := ⟨[(["c"], .directory), (["c", "snippet-java-classes"], .directory)] ++
    oneSnippet.files.entries⟩

/-- The same workspace with a file in the directory of classes. -/
def obstructed : Workspace where
  files := ⟨(["c", "snippet-java-classes", "g"], .file ByteArray.empty) ::
    unobstructed.files.entries⟩

/-- The course of a capturing task with a compiler that looks for the baseline. -/
def lookingCourse (task : Task) (start : Workspace) : Course × Workspace :=
  (({} : Pipeline).course (looking "baseline-java.json") task).run start

set_option maxRecDepth 100000 in
/-- How the courses of both tasks end. -/
theorem lookingCourse_counted :
    (lookingCourse watchedTask unbaselined).1.result.map counted =
        .ok ([theSnippet], 0, 0, 1) ∧
      (lookingCourse watchedTask baselined).1.result.map counted =
        .ok ([theSnippet], 0, 1, 0) ∧
      (lookingCourse nestedTask unobstructed).1.result.map counted =
        .ok ([theSnippet], 0, 0, 1) ∧
      (lookingCourse nestedTask obstructed).1.result.map counted =
        .error (.files (.notRead nestedTask.paths.generatedDir)) := by
  decide +kernel

/-- The workspaces with and without a baseline differ in the baseline only. -/
private theorem alikeButHistory_baselined :
    watchedTask.AlikeButHistory ∅ unbaselined baselined := by
  have hfiles : ∀ location ∈ (unbaselined.files.entries ++ baselined.files.entries).map Prod.fst,
      (target [] watchedTask.paths.classesDir <+: location →
        location = target [] watchedTask.paths.classesDir) →
      unbaselined.files.AlikeAt
        {place | place ∈ [target [] watchedTask.paths.baselineFile]} {place | place ∈ []}
        baselined.files location := by
    decide +kernel
  refine ⟨rfl, by decide +kernel, by decide +kernel, by decide +kernel, fun location hbelow => ?_⟩
  exact (Tree.alikeAt_of_entries hfiles location hbelow).mono
    (fun hmem => .inl (.inr (List.mem_singleton.1 hmem))) fun hmem => nomatch hmem

/-- The workspaces with and without a file in the directory of classes differ in that file only. -/
private theorem alikeButHistory_obstructed :
    nestedTask.AlikeButHistory ∅ unobstructed obstructed := by
  have hfiles : ∀ location ∈
        (unobstructed.files.entries ++ obstructed.files.entries).map Prod.fst,
      (target [] nestedTask.paths.classesDir <+: location →
        location = target [] nestedTask.paths.classesDir) →
      unobstructed.files.AlikeAt {place | place ∈ []} {place | place ∈ []}
        obstructed.files location := by
    decide +kernel
  refine ⟨rfl, by decide +kernel, by decide +kernel, by decide +kernel, fun location hbelow => ?_⟩
  exact (Tree.alikeAt_of_entries hfiles location hbelow).mono
    (fun hmem => nomatch hmem) fun hmem => nomatch hmem

end Recapture

open Recapture Capture

/-- Capture runs do depend on history in two ways. A compiler that finds the baseline on its
classpath can pass what it would reject without it; and a file that is left in the directory of
classes, where sources are to be generated, lets the run fail. -/
theorem captures_depend_on_history :
    (looking "baseline-java.json").ReadsInputs ∧
    (watchedTask.AlikeButHistory ∅ unbaselined baselined ∧
      (lookingCourse watchedTask unbaselined).1.result.map counted =
        .ok ([theSnippet], 0, 0, 1) ∧
      (lookingCourse watchedTask baselined).1.result.map counted =
        .ok ([theSnippet], 0, 1, 0)) ∧
    nestedTask.AlikeButHistory ∅ unobstructed obstructed ∧
      (lookingCourse nestedTask unobstructed).1.result.map counted =
        .ok ([theSnippet], 0, 0, 1) ∧
      (lookingCourse nestedTask obstructed).1.result.map counted =
        .error (.files (.notRead nestedTask.paths.generatedDir)) := by
  obtain ⟨hunbaselined, hbaselined, hunobstructed, hobstructed⟩ := lookingCourse_counted
  exact ⟨readsInputs_looking _, ⟨alikeButHistory_baselined, hunbaselined, hbaselined⟩,
    alikeButHistory_obstructed, hunobstructed, hobstructed⟩

end SnippetCheck
