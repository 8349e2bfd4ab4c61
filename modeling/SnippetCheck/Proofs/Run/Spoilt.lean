import SnippetCheck.Proofs.Run.Loading
import SnippetCheck.Proofs.Run.Tandem

/-!
# Runs With State That Cannot Be Used

A normal run that finds unusable bytes in place of its state does the same as without these files,
and notes a warning for each that holds no document at all (`runs_of_spoilt_state`). For that, the
files have to be nothing but state: no documents, on the way to nothing, and out of sight of the
commands (`spoilt_state_matters`).
-/

namespace SnippetCheck

open Action Files Workspace Phase

/-! ## The two workspaces -/

namespace Task

/-- One workspace has nothing in the place of some files of a task's state, where the other one has
files of some bytes. They are the same otherwise. -/
structure SpoiltBy (task : Task) (spoilt : Spoilt) (start other : Workspace) : Prop where
  cwd : other.cwd = start.cwd
  proper : start.files.Proper
  proper' : other.files.Proper
  gone : ∀ location ∈ spoilt.places task start.cwd, start.files.get? location = none
  kept : ∀ location ∉ spoilt.places task start.cwd,
    other.files.get? location = start.files.get? location
  cache : ∀ bytes, spoilt.cache = some bytes →
    ReadsBytes start.cwd task.paths.cacheFile bytes other
  baseline : ∀ bytes, spoilt.baseline = some bytes →
    ReadsBytes start.cwd task.paths.baselineFile bytes other

/-- The paths of a task lead through none of some places, except that its state may stand there. -/
structure Bypasses (task : Task) (cwd : Location) (places : Set Location) : Prop where
  generated : ∀ stage ∈ stages cwd task.paths.generatedDir, stage ∉ places
  classes : ∀ stage ∈ stages cwd task.paths.classesDir, stage ∉ places
  base : ∀ stage ∈ stages cwd task.session.baseSource, stage ∉ places
  cache : ∀ stage ∈ (stages cwd task.paths.cacheFile).dropLast, stage ∉ places
  baseline : ∀ stage ∈ (stages cwd task.paths.baselineFile).dropLast, stage ∉ places

instance (task : Task) (cwd : Location) (places : Set Location)
    [DecidablePred (· ∈ places)] : Decidable (task.Bypasses cwd places) :=
  decidable_of_iff
    ((∀ stage ∈ stages cwd task.paths.generatedDir, stage ∉ places) ∧
      (∀ stage ∈ stages cwd task.paths.classesDir, stage ∉ places) ∧
      (∀ stage ∈ stages cwd task.session.baseSource, stage ∉ places) ∧
      (∀ stage ∈ (stages cwd task.paths.cacheFile).dropLast, stage ∉ places) ∧
      ∀ stage ∈ (stages cwd task.paths.baselineFile).dropLast, stage ∉ places)
    ⟨fun h => ⟨h.1, h.2.1, h.2.2.1, h.2.2.2.1, h.2.2.2.2⟩,
      fun h => ⟨h.generated, h.classes, h.base, h.cache, h.baseline⟩⟩

variable {task : Task} {spoilt : Spoilt} {start other : Workspace}

/-- Spoilt files are state. -/
theorem mem_stateAt_of_mem_places {cwd location : Location}
    (h : location ∈ spoilt.places task cwd) : location ∈ task.stateAt cwd :=
  h.imp And.right And.right

namespace SpoiltBy

/-- The workspaces are alike but for the spoilt files. -/
theorem alike (h : task.SpoiltBy spoilt start other) :
    start.Alike other (spoilt.places task start.cwd) ∅ start other where
  cwd := rfl
  cwd' := h.cwd
  inStep := ⟨[], by simp⟩
  files location := by
    by_cases hmem : location ∈ spoilt.places task start.cwd
    · have hfile : ∃ bytes, other.files.fileAt? location = some bytes := by
        rcases hmem with ⟨hsome, rfl⟩ | ⟨hsome, rfl⟩
        · obtain ⟨bytes, hcontent⟩ := Option.isSome_iff_exists.1 hsome
          exact ⟨bytes, (Tree.readBytes_eq_ok.1 (h.cache bytes hcontent).2).2⟩
        · obtain ⟨bytes, hcontent⟩ := Option.isSome_iff_exists.1 hsome
          exact ⟨bytes, (Tree.readBytes_eq_ok.1 (h.baseline bytes hcontent).2).2⟩
      obtain ⟨bytes, hfile⟩ := hfile
      refine .inr (.inl ⟨hmem, ?_, ?_⟩)
      · simp [h.gone location hmem]
      · simp [Tree.fileAt?_eq_some.1 hfile]
    · exact .of_eq (h.kept location hmem)

end SpoiltBy

/-- The place of the cache is spoilt only if the cache is. -/
private theorem cacheFile_mem_places {cwd : Location}
    (hpaths : ∃ given root, task.paths = PathsSection.resolve given root task.language)
    (h : target cwd task.paths.cacheFile ∈ spoilt.places task cwd) :
    spoilt.cache.isSome = true := by
  rcases h with ⟨hsome, -⟩ | ⟨-, heq⟩
  · exact hsome
  · obtain ⟨given, root, hpaths⟩ := hpaths
    rw [hpaths] at heq
    exact absurd heq (PathsSection.target_cacheFile_ne given root task.language cwd)

/-- The place of the baseline is spoilt only if the baseline is. -/
private theorem baselineFile_mem_places {cwd : Location}
    (hpaths : ∃ given root, task.paths = PathsSection.resolve given root task.language)
    (h : target cwd task.paths.baselineFile ∈ spoilt.places task cwd) :
    spoilt.baseline.isSome = true := by
  rcases h with ⟨-, heq⟩ | ⟨hsome, -⟩
  · obtain ⟨given, root, hpaths⟩ := hpaths
    rw [hpaths] at heq
    exact absurd heq.symm (PathsSection.target_cacheFile_ne given root task.language cwd)
  · exact hsome

end Task

/-! ## The phases -/

/-- Two runs are the same, but that the second one has noted more at some point. -/
def Run.NotesMore (more : List Diagnostic) (run other : Run) : Prop :=
  ∃ early late, run.diagnostics = early ++ late ∧
    other = { run with diagnostics := early ++ more ++ late }

namespace Phase

variable {machine : Machine} {run other : Run} {spoilt : Spoilt} {version : SdkVersion}
  {more : List Diagnostic} {files : Set Location} {start start' middle middle' : Workspace}

/-- Leaving out what a baseline accepts ends alike if that is spoilt, up to what is noted. -/
private theorem endAlike_filterBaseline_of_spoiltAt (hmode : run.task.mode = .normal)
    (hunusable : spoilt.Unusable version)
    (h : SpoiltAt run.task.paths.baselineFile spoilt.baseline start start') :
    EndAlike (Run.NotesMore (spoilt.baselineWarnings run.task))
      (fun middle middle' => start = middle ∧ start' = middle') (start.InStep start')
      ((filterBaseline.perform run).exec start) ((filterBaseline.perform run).exec start') := by
  obtain ⟨hloaded, hnoted⟩ := h.load_baseline hunusable
  unfold filterBaseline
  dsimp only
  rw [hmode]
  dsimp only
  rw [exec_get_bind, exec_get_bind, orWarn_eq, orWarn_eq, hloaded, hnoted]
  simp only [leaveOut_withDiagnostics _ run (_ ++ _)]
  exact .ok ⟨_, [], (List.append_nil _).symm, by simp⟩ ⟨rfl, rfl⟩

/-- Replacing the units goes in tandem, if nothing on the way to their directory and to that of the
classes may differ, and no source does. -/
theorem tandem_replaceUnits {origin origin' : Workspace} {paths : LanguagePaths}
    {language : Language} {units : List SourceUnit}
    (hpaths : ∃ given root, paths = PathsSection.resolve given root language)
    (hgenerated : ∀ stage ∈ stages origin.cwd paths.generatedDir, stage ∉ files)
    (hclasses : ∀ stage ∈ stages origin.cwd paths.classesDir, stage ∉ files)
    (hfiles : ∀ location ∈ files, extensionAt? location ≠ some language.extension)
    (hnamed : ∀ sourceUnit ∈ units, SourceUnit.WellNamed language sourceUnit) :
    (replaceUnits paths language units).Tandem
      (fun workspace other => origin.Alike origin' files ∅ workspace other ∧
        workspace.files.Proper ∧ other.files.Proper)
      Eq (origin.Alike origin' files ∅) (origin.InStep origin') := by
  obtain ⟨given, root, rfl⟩ := hpaths
  refine (tandem_removeFilesWithExtension (fun stage hstage => ⟨hgenerated stage hstage,
    Set.notMem_empty stage⟩) hfiles).bind_const ?_
  refine (tandem_removeDirectoryIfPresent (fun stage hstage => ⟨hclasses stage hstage,
    Set.notMem_empty stage⟩) (PathsSection.isSome_lastName?_classesDir given root language)
    (PathsSection.target_classesDir_ne given root language origin.cwd)).bind_const ?_
  refine (tandem_writeUnits hnamed (Set.notMem_empty _) hgenerated fun _ hmem =>
    absurd hmem (Set.notMem_empty _)).imp (fun _ _ h => h) fun _ _ h =>
      h.mono (fun _ hmem => hmem) fun location hmem => ?_
  split at hmem
  · exact hmem
  · exact hmem.1

/-- Generating the units ends alike for runs that have noted more or less. -/
private theorem endAlike_generate_of_notesMore {between failed : Workspace → Workspace → Prop}
    (hnotes : run.NotesMore more other)
    (h : EndAlike Eq between failed
      ((replaceUnits run.task.paths run.task.language
        (SourceUnit.ofSnippets run.task.settings run.snippets)).exec middle)
      ((replaceUnits run.task.paths run.task.language
        (SourceUnit.ofSnippets run.task.settings run.snippets)).exec middle')) :
    EndAlike (Run.NotesMore more) between failed
      ((generate.perform run).exec middle) ((generate.perform other).exec middle') := by
  obtain ⟨early, late, hrun, rfl⟩ := hnotes
  -- the same collisions are noted last
  obtain ⟨collisions, hcollisions⟩ : ∃ collisions, ∀ diagnostics,
      noteCollisions { run with diagnostics } =
        { run with diagnostics := diagnostics ++ collisions } :=
    ⟨(noteCollisions { run with diagnostics := [] }).diagnostics, fun _ => rfl⟩
  have hcollisions' : noteCollisions run =
      { run with diagnostics := run.diagnostics ++ collisions } := hcollisions run.diagnostics
  refine (h.describing RunError.files).bind ?_
  rintro _ _ final final' - hbetween
  refine .ok ⟨early, late ++ collisions, ?_, ?_⟩ hbetween
  · rw [hcollisions', hrun, List.append_assoc]
  · dsimp only
    rw [hcollisions, hcollisions', List.append_assoc]

/-- A session compiles units in tandem if it is blind to what may differ, and nothing on its paths
does. -/
private theorem tandem_session_of_bypasses {task : Task} {units : List SourceUnit}
    (hbypasses : task.Bypasses start.cwd files)
    (hblind : task.session.Blind machine task.version units start.cwd files ∅) :
    (task.session.compile machine task.version units).Tandem (start.Alike start' files ∅) Eq
      (start.Alike start' files ∅) (start.InStep start') :=
  Compiler.Session.tandem_compile hblind (Set.notMem_empty _) hbypasses.classes fun stage hstage =>
    ⟨hbypasses.base stage hstage, fun hmem => absurd hmem (Set.notMem_empty stage)⟩

/-- Compiling ends alike if the cache is spoilt and runs have noted more or less, up to what is
noted. The cache is the same afterwards. -/
private theorem endAlike_compile_of_spoiltAt (hmode : run.task.mode = .normal)
    (hclean : run.task.cleanCache = false)
    (hpaths : ∃ given root, run.task.paths = PathsSection.resolve given root run.task.language)
    (hbypasses : run.task.Bypasses start.cwd files)
    (hblind : run.task.session.Blind machine run.task.version run.units start.cwd files ∅)
    (hunusable : spoilt.Unusable run.task.version) (hnotes : run.NotesMore more other)
    (h : start.Alike start' files ∅ middle middle')
    (hcache : SpoiltAt run.task.paths.cacheFile spoilt.cache middle middle') :
    EndAlike
      (fun next next' => ∃ early late, next.diagnostics = early ++ late ∧
        next' = { next with
          diagnostics := early ++ more ++ late ++ spoilt.cacheWarnings run.task })
      (start.Alike start' (files \ {target start.cwd run.task.paths.cacheFile}) ∅)
      (start.InStep start')
      (((compile machine).perform run).exec middle)
      (((compile machine).perform other).exec middle') := by
  obtain ⟨early, late, hrun, rfl⟩ := hnotes
  obtain ⟨hloaded, hnoted⟩ := hcache.load_cache hunusable
  have hforget (workspace : Workspace) :
      ((forgetCache run.task).describing RunError.files).exec workspace = (.ok (), workspace) := by
    rw [forgetCache, if_neg (by simp [hmode, hclean])]
    rfl
  unfold compile
  dsimp only
  rw [exec_bind, exec_bind, hforget, hforget]
  dsimp only
  rw [exec_get_bind, exec_get_bind, orWarn_eq, orWarn_eq, hloaded, hnoted]
  generalize Cache.load middle run.task.paths.cacheFile run.task.version = loaded
  dsimp only
  -- the same units are pending, and the same is found for them
  have hpending : run.task.session.Blind machine run.task.version
      (pending (loaded.toOption.getD .empty) run.units) start.cwd files ∅ :=
    { hblind with
      units := fun classpath sourceUnit hmem =>
        hblind.units classpath sourceUnit ((pending_sublist _ _).subset hmem) }
  refine ((tandem_session_of_bypasses hbypasses hpending).describing RunError.compile _ _ h).bind ?_
  rintro fresh _ compiled compiled' rfl hcompiled
  refine ((tandem_saveCache hpaths (Set.notMem_empty _) hbypasses.cache (Set.notMem_empty _)
    _).describing RunError.files _ _ hcompiled).bind ?_
  rintro _ _ stored stored' - hstored
  refine .ok ⟨early, late ++ noted loaded "compile", ?_, ?_⟩ hstored
  · rw [hrun, List.append_assoc]
  · simp only [List.append_assoc]

/-- Normal runs capture nothing. -/
private theorem endAlike_captureBaseline_of_normal (hmode : run.task.mode = .normal)
    (hmode' : other.task.mode = .normal) :
    EndAlike (fun next next' => run = next ∧ other = next')
      (fun final final' => middle = final ∧ middle' = final') (start.InStep start')
      ((captureBaseline.perform run).exec middle)
      ((captureBaseline.perform other).exec middle') := by
  rw [captureBaseline_perform_of_normal hmode, captureBaseline_perform_of_normal hmode']
  exact .ok ⟨rfl, rfl⟩ ⟨rfl, rfl⟩

end Phase

/-! ## Runs with spoilt state -/

namespace Task.SpoiltBy

variable {task : Task} {spoilt : Spoilt} {start other : Workspace}

/-- The baseline is spoilt at the start. -/
private theorem spoiltAt_baselineFile (h : task.SpoiltBy spoilt start other)
    (hsited : task.Sited start.cwd)
    (hbypasses : task.Bypasses start.cwd (spoilt.places task start.cwd)) :
    SpoiltAt task.paths.baselineFile spoilt.baseline start other := by
  refine h.alike.spoiltAt hbypasses.baseline (fun hnone hmem => ?_) (fun hsome => ?_) h.baseline
  · have hsome := baselineFile_mem_places hsited.paths hmem
    rw [hnone] at hsome
    cases hsome
  · rw [Tree.fileAt?, h.gone _ (.inr ⟨hsome, rfl⟩)]

/-- The units are generated alike, and the cache is spoilt then. -/
private theorem endAlike_generate {run run' : Run} {more : List Diagnostic}
    (h : task.SpoiltBy spoilt start other) (hsited : task.Sited start.cwd)
    (hbypasses : task.Bypasses start.cwd (spoilt.places task start.cwd))
    (htask : run.task = task) (hnotes : run.NotesMore more run') :
    EndAlike (Run.NotesMore more)
      (fun middle middle' => start.Alike other (spoilt.places task start.cwd) ∅ middle middle' ∧
        SpoiltAt task.paths.cacheFile spoilt.cache middle middle')
      (start.InStep other)
      ((generate.perform run).exec start) ((generate.perform run').exec other) := by
  subst htask
  have hnamed : ∀ sourceUnit ∈ SourceUnit.ofSnippets run.task.settings run.snippets,
      SourceUnit.WellNamed run.task.language sourceUnit :=
    fun _ => SourceUnit.wellNamed_of_mem_ofSnippets
  have hreplace := tandem_replaceUnits hsited.paths hbypasses.generated hbypasses.classes
    (fun location hmem => extension_ne_of_mem_stateAt hsited.paths (mem_stateAt_of_mem_places hmem))
    hnamed start other ⟨h.alike, h.proper, h.proper'⟩
  -- what stands in the place of the cache is neither replaced nor removed
  have hgone := Keeps.of_holdsAt
    (fun _ => keeps_replaceUnits_holdsAt hsited.extension_ne hsited.cache.target hnamed)
    fun content => spoilt.cache.isSome = true → content = none
  have hbytes : (replaceUnits run.task.paths run.task.language
      (SourceUnit.ofSnippets run.task.settings run.snippets)).Keeps fun workspace =>
        ∀ bytes, spoilt.cache = some bytes →
          ReadsBytes start.cwd run.task.paths.cacheFile bytes workspace :=
    fun workspace hstart bytes hcontent => keeps_replaceUnits_readsBytes hsited.extension_ne
      hsited.cache hnamed workspace (hstart bytes hcontent)
  refine endAlike_generate_of_notesMore hnotes ((hreplace.and_keeps hgone hbytes
    ⟨rfl, fun hsome => ?_⟩ h.cache).imp (fun _ _ h => h) ?_ fun _ _ h => h)
  · rw [Tree.fileAt?, h.gone _ (.inl ⟨hsome, rfl⟩)]
  · rintro middle middle' ⟨halike, hmissing, hread⟩
    refine ⟨halike, halike.spoiltAt hbypasses.cache (fun hnone hmem => ?_) hmissing.2 hread⟩
    have hsome := cacheFile_mem_places hsited.paths hmem
    rw [hnone] at hsome
    cases hsome

end Task.SpoiltBy

/-- A normal run with spoilt state ends as it does without these files: it fails with the same
error, or it finds the same and stores the same cache, and notes a warning for each spoilt file that
holds no document. The commands that it launches are the same. -/
theorem runs_of_spoilt_state {machine : Machine} {task : Task} {spoilt : Spoilt}
    {start other : Workspace} (hmode : task.mode = .normal) (hclean : task.cleanCache = false)
    (hsited : task.Sited start.cwd) (hspoilt : task.SpoiltBy spoilt start other)
    (hunusable : spoilt.Unusable task.version) (hdocuments : task.SameDocuments start other)
    (hbypasses : task.Bypasses start.cwd (spoilt.places task start.cwd))
    (hblind : ∀ snippets, task.extraction.run start = .ok snippets →
      task.session.Blind machine task.version (consideredUnits task start snippets) start.cwd
        (spoilt.places task start.cwd) ∅) :
    EndAlike
      (fun run run' => ∃ early late, run.diagnostics = early ++ late ∧
        run' = { run with
          diagnostics :=
            early ++ spoilt.baselineWarnings task ++ late ++ spoilt.cacheWarnings task })
      (fun final final' => start.InStep other final final' ∧
        final'.files.fileAt? (target start.cwd task.paths.cacheFile) =
          final.files.fileAt? (target start.cwd task.paths.cacheFile))
      (start.InStep other)
      ((({} : Pipeline).run machine task).exec start)
      ((({} : Pipeline).run machine task).exec other) := by
  rw [Pipeline.exec_run, Pipeline.exec_run, Pipeline.course, Pipeline.schedule_default]
  refine Pipeline.endAlike_ended_cons (endAlike_extract hdocuments (.refl start other)) ?_
  rintro extracted _ _ _ hextract rfl ⟨rfl, rfl⟩
  have hextracted := extract_perform_yields hextract
  obtain ⟨-, snippets, diagnostics, hsnippets, rfl⟩ := hextracted
  refine Pipeline.endAlike_ended_cons (endAlike_filterBaseline_of_spoiltAt hmode hunusable
    (hspoilt.spoiltAt_baselineFile hsited hbypasses)) ?_
  rintro filtered filtered' _ _ hfilter hfiltered ⟨rfl, rfl⟩
  have htask : filtered.task = task := by
    obtain ⟨-, _, rfl⟩ := filterBaseline_perform_yields hfilter
    exact task_leaveOut _ _
  refine Pipeline.endAlike_ended_cons
    (hspoilt.endAlike_generate hsited hbypasses htask hfiltered) ?_
  rintro generated generated' middle middle' hgenerate hgenerated ⟨halike, hcache⟩
  obtain ⟨_, _, hsnippets', rfl, -⟩ :=
    Pipeline.exists_readyRun_eq hextract hfilter hgenerate
  refine Pipeline.endAlike_ended_cons (endAlike_compile_of_spoiltAt hmode hclean hsited.paths
    hbypasses (hblind _ hsnippets') hunusable hgenerated halike hcache) ?_
  rintro compiled _ final final' hcompile ⟨early, late, hdiagnostics, rfl⟩ hfinal
  obtain ⟨_, _, _, _, -, -, -, rfl⟩ := compile_perform_yields hcompile
  refine Pipeline.endAlike_ended_cons (endAlike_captureBaseline_of_normal hmode hmode) ?_
  rintro _ _ _ _ - ⟨rfl, rfl⟩ ⟨rfl, rfl⟩
  exact .ok ⟨early, late, hdiagnostics, rfl⟩
    ⟨hfinal.inStep, (hfinal.files _).fileAt?_eq fun hmem => hmem.2 rfl⟩

/-! ## Spoiling state -/

namespace Task

variable {task : Task} {start : Workspace}

/-- A compiler that only reads its source is blind to state that it does not come across. -/
theorem Bypasses.blind_reading {judge : ByteArray → Finished} {places : Set Location}
    (hbypasses : task.Bypasses start.cwd places)
    (hplaces : ∀ location ∈ places, extensionAt? location ≠ some task.language.extension)
    (hexporter : task.classpath.exporter = none) (snippets : List Snippet) :
    task.session.Blind (.reading judge) task.version (consideredUnits task start snippets)
      start.cwd places ∅ := by
  refine Compiler.Session.blind_reading hexporter
    (fun stage hstage => ⟨hbypasses.base stage hstage, fun hmem => hmem.1⟩)
    fun sourceUnit hmem stage hstage => ⟨?_, fun hmem => hmem.1⟩
  -- no unit has the extension of such state
  have hunit := SourceUnit.wellNamed_of_mem_ofSnippets hmem
  exact fun hplace =>
    hbypasses.generated stage (hunit.mem_stages_of_pathIn hstage (hplaces stage hplace)) hplace

end Task

namespace Spoilt

/-- A tree with bytes in the place of a file, if there are any. -/
def putAt (content : Option ByteArray) (location : Location) (files : Tree) : Tree :=
  match content with
  | none => files
  | some bytes => files.set location (.file bytes)

/-- A workspace whose state files are spoilt. -/
def put (spoilt : Spoilt) (task : Task) (start : Workspace) : Workspace where
  files := putAt spoilt.cache (target start.cwd task.paths.cacheFile)
    (putAt spoilt.baseline (target start.cwd task.paths.baselineFile) start.files)
  cwd := start.cwd
  launches := start.launches

/-- Nothing else changes. -/
private theorem get?_putAt {content : Option ByteArray} {location stage : Location} {files : Tree}
    (h : ¬ (content.isSome = true ∧ stage = location)) :
    (putAt content location files).get? stage = files.get? stage := by
  cases content with
  | none => rfl
  | some bytes => exact Tree.get?_set_of_ne _ _ fun heq => h ⟨rfl, heq⟩

variable {spoilt : Spoilt} {task : Task} {start : Workspace}

/-- The state of a task is spoilt when unusable bytes are put in the place of its files. -/
structure Spoils (spoilt : Spoilt) (task : Task) (start : Workspace) : Prop where
  mode : task.mode = .normal
  clean : task.cleanCache = false
  sited : task.Sited start.cwd
  outside : Avoids (target start.cwd task.paths.classesDir) start.cwd task.paths.baselineFile
  spoiltBy : task.SpoiltBy spoilt start (spoilt.put task start)
  unusable : spoilt.Unusable task.version

private theorem toOption_eq_some {ε α : Type} {result : Except ε α} {a : α} :
    result.toOption = some a ↔ result = .ok a := by
  cases result <;> simp [Except.toOption]

/-- Whether bytes spoil the state of a task can be decided, once it is known where that stands: they
are put where nothing has stood, they can be read there, and they hold no document. -/
theorem spoils_of_decided
    (hpaths : ∃ given root, task.paths = PathsSection.resolve given root task.language)
    (hmode : task.mode = .normal ∧ task.cleanCache = false)
    (hput : Avoids (target start.cwd task.paths.classesDir) start.cwd task.paths.cacheFile ∧
      Avoids (target start.cwd task.paths.classesDir) start.cwd task.paths.baselineFile ∧
      start.files.Proper ∧ (spoilt.put task start).files.Proper ∧
      (∀ bytes ∈ spoilt.cache,
        (start.files.get? (target start.cwd task.paths.cacheFile)).isNone = true ∧
        ((spoilt.put task start).files.readBytes start.cwd task.paths.cacheFile).toOption =
          some bytes ∧
        (Cache.ofBytes? bytes).isNone = true) ∧
      ∀ bytes ∈ spoilt.baseline,
        (start.files.get? (target start.cwd task.paths.baselineFile)).isNone = true ∧
        ((spoilt.put task start).files.readBytes start.cwd task.paths.baselineFile).toOption =
          some bytes ∧
        (Baseline.ofBytes? bytes).isNone = true) : spoilt.Spoils task start := by
  obtain ⟨hcacheFile, hbaselineFile, hproper, hproper', hcache, hbaseline⟩ := hput
  simp only [Option.mem_def, Option.isNone_iff_eq_none, toOption_eq_some] at hcache hbaseline
  have hcaches {bytes : ByteArray} (hcontent : spoilt.cache = some bytes) := hcache bytes hcontent
  have hbaselines {bytes : ByteArray} (hcontent : spoilt.baseline = some bytes) :=
    hbaseline bytes hcontent
  refine ⟨hmode.1, hmode.2, ⟨hpaths, hcacheFile⟩, hbaselineFile, ⟨rfl, hproper, hproper',
    fun location hmem => ?_, fun location hmem => ?_,
    fun bytes hcontent => ⟨rfl, (hcaches hcontent).2.1⟩,
    fun bytes hcontent => ⟨rfl, (hbaselines hcontent).2.1⟩⟩,
    ⟨fun bytes hcontent cache hstored => ?_, fun bytes hcontent => (hbaselines hcontent).2.2⟩⟩
  · rcases hmem with ⟨hsome, rfl⟩ | ⟨hsome, rfl⟩
    · obtain ⟨bytes, hcontent⟩ := Option.isSome_iff_exists.1 hsome
      exact (hcaches hcontent).1
    · obtain ⟨bytes, hcontent⟩ := Option.isSome_iff_exists.1 hsome
      exact (hbaselines hcontent).1
  · rw [put, get?_putAt fun h => hmem (.inl h), get?_putAt fun h => hmem (.inr h)]
  · rw [(hcaches hcontent).2.2] at hstored
    cases hstored

/-- Which documents a task has does not matter for its state. -/
theorem Spoils.withDocs (h : spoilt.Spoils task start) (docs extensions : List String) :
    spoilt.Spoils { task with docs, extensions } start where
  mode := h.mode
  clean := h.clean
  sited := ⟨h.sited.paths, h.sited.cache⟩
  outside := h.outside
  spoiltBy := ⟨h.spoiltBy.cwd, h.spoiltBy.proper, h.spoiltBy.proper', h.spoiltBy.gone,
    h.spoiltBy.kept, h.spoiltBy.cache, h.spoiltBy.baseline⟩
  unusable := h.unusable

/-! ## Sample runs with spoilt state -/

open History

/-- The workspace of the sample task with directories for its state. -/
def furnished : Workspace where
  files := ⟨[(["validation"], .directory), (["validation", "cache"], .directory),
    (["validation", "baselines"], .directory)] ++ sampleStart.files.entries⟩

/-- Bytes that are no text, in the place of the cache and of the baseline. -/
def illegible : Spoilt where
  cache := some ⟨#[0xff]⟩
  baseline := some ⟨#[0xff]⟩

/-- The sample task without its documents. -/
def rootlessTask : Task :=
  { sampleTask with docs := ["e"] }

/-- The sample task with its baseline among the documents. -/
def documentingTask : Task :=
  { sampleTask with docs := ["validation/baselines"], extensions := ["json"] }

/-- The sample task with sources in the place of the baseline, and with an empty directory of
documents. -/
def overlappingTask : Task :=
  { sampleTask with
    docs := ["validation/cache"]
    paths :=
      PathsSection.resolve { generated := "validation/baselines/baseline-java.json" } "" .java }

/-- A machine whose commands fail if they see a file at a location. -/
def watching (location : Location) : Machine where
  run _ _ files :=
    (some ⟨.code (if (files.fileAt? location).isSome then 1 else 0), [], []⟩, files)

/-- How a run of a task ends, and what it leaves. -/
def ending (machine : Machine) (task : Task) (start : Workspace) :
    Except RunError Run × Workspace :=
  (({} : Pipeline).run machine task).exec start

set_option maxRecDepth 100000 in
/-- The bytes spoil the state of the sample task. -/
private theorem spoils_sampleTask : illegible.Spoils sampleTask furnished :=
  spoils_of_decided ⟨{}, "", rfl⟩ (by decide) (by decide +kernel)

set_option maxRecDepth 100000 in
/-- The bytes spoil the state of the task with sources in the place of the baseline. -/
private theorem spoils_overlappingTask : illegible.Spoils overlappingTask furnished :=
  spoils_of_decided ⟨{ generated := "validation/baselines/baseline-java.json" }, "", rfl⟩
    (by decide) (by decide +kernel)

set_option maxRecDepth 100000 in
/-- The sample task succeeds with a pass when it has no state. -/
private theorem ending_sampleTask :
    (ending (.reading objection) sampleTask furnished).1.toOption.map told =
      some [(false, [])] := by
  decide +kernel

set_option maxRecDepth 100000 in
/-- The paths of the sample task lead through none of its state. -/
private theorem bypasses_sampleTask : sampleTask.Bypasses [] (illegible.places sampleTask []) := by
  decide +kernel

end Spoilt

open Spoilt History

set_option maxRecDepth 100000 in
/-- The sample task with spoilt state succeeds as it does without, with two more warnings. -/
theorem runs_of_spoilt_state_sampleTask :
    ∃ run final run' final',
      (({} : Pipeline).run (.reading objection) sampleTask).Yields furnished run final ∧
      (({} : Pipeline).run (.reading objection) sampleTask).Yields
        (illegible.put sampleTask furnished) run' final' ∧
      told run = [(false, [])] ∧ told run' = [(false, [])] ∧
      run'.diagnostics.length = run.diagnostics.length + 2 := by
  obtain ⟨hmode, hclean, hsited, -, hspoilt, hunusable⟩ := spoils_sampleTask
  have hdocuments : sampleTask.SameDocuments furnished (illegible.put sampleTask furnished) := by
    decide +kernel
  have hplaces : ∀ location ∈ illegible.places sampleTask [],
      extensionAt? location ≠ some sampleTask.language.extension := fun _ hmem =>
    Task.extension_ne_of_mem_stateAt ⟨{}, "", rfl⟩ (Task.mem_stateAt_of_mem_places hmem)
  have hend := runs_of_spoilt_state hmode hclean hsited hspoilt hunusable hdocuments
    bypasses_sampleTask fun snippets _ =>
      @Task.Bypasses.blind_reading sampleTask furnished objection _ bypasses_sampleTask hplaces
        rfl snippets
  obtain ⟨run, hrun, htold⟩ := Option.map_eq_some_iff.1 ending_sampleTask
  rw [ending] at hrun
  rcases hstart : (({} : Pipeline).run (.reading objection) sampleTask).exec furnished with
    ⟨result, final⟩
  rcases hother : (({} : Pipeline).run (.reading objection) sampleTask).exec
    (illegible.put sampleTask furnished) with ⟨result', final'⟩
  rw [hstart] at hrun hend
  rw [hother] at hend
  cases hend with
  | error =>
    cases hrun
  | ok hnotes =>
    cases hrun
    obtain ⟨early, late, hdiagnostics, rfl⟩ := hnotes
    refine ⟨run, final, _, final', hstart, hother, htold, htold, ?_⟩
    have hbaseline : (illegible.baselineWarnings sampleTask).length = 1 := rfl
    have hcache : (illegible.cacheWarnings sampleTask).length = 1 := by decide +kernel
    simp only [hdiagnostics, List.length_append, hbaseline, hcache]
    omega

set_option maxRecDepth 100000 in
/-- Spoilt state makes a difference if the run fails before the cache is replaced, if the state is a
document, if sources are generated in its place, or if the compiler looks for it. -/
theorem spoilt_state_matters :
    (illegible.Spoils rootlessTask furnished ∧
      (ending (.reading objection) rootlessTask furnished).2.files.fileAt?
        (target [] rootlessTask.paths.cacheFile) = none ∧
      (ending (.reading objection) rootlessTask
        (illegible.put rootlessTask furnished)).2.files.fileAt?
        (target [] rootlessTask.paths.cacheFile) = some ⟨#[0xff]⟩) ∧
    (illegible.Spoils documentingTask furnished ∧
      (ending (.reading objection) documentingTask furnished).1.toOption.map told = some [] ∧
      (ending (.reading objection) documentingTask
        (illegible.put documentingTask furnished)).1.toOption.map told = none) ∧
    (illegible.Spoils overlappingTask furnished ∧
      (ending (.reading objection) overlappingTask furnished).1.toOption.map told = some [] ∧
      (ending (.reading objection) overlappingTask
        (illegible.put overlappingTask furnished)).1.toOption.map told = none) ∧
    (illegible.Spoils sampleTask furnished ∧
      (ending (watching (target [] sampleTask.paths.baselineFile)) sampleTask
        furnished).1.toOption.map told = some [(false, [])] ∧
      (ending (watching (target [] sampleTask.paths.baselineFile)) sampleTask
        (illegible.put sampleTask furnished)).1.toOption.map told = none) := by
  refine ⟨⟨spoils_sampleTask.withDocs _ _, ?_⟩, ⟨spoils_sampleTask.withDocs _ _, ?_⟩,
    ⟨spoils_overlappingTask, ?_⟩, spoils_sampleTask, ?_⟩
  · decide +kernel
  · decide +kernel
  · decide +kernel
  · decide +kernel

end SnippetCheck
