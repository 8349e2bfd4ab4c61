import SnippetCheck.Proofs.Compiler.Beside
import SnippetCheck.Proofs.Files.Reached
import SnippetCheck.Proofs.Listing
import SnippetCheck.Proofs.Run.Abort

/-!
# Runs Within A Territory

What every step of a task keeps (`Task.StepsKeep`), each phase of a run keeps, and so does a run,
wherever it stops (`Task.StepsKeep.holds_course`).

The territory of a language (`LanguagePaths.territory`) has what its runs leave: the sources, the
classes, the cache and the baseline, and what the command for the classpath scratches besides. On
the ways to these, directories are made. A task that is bounded by a territory (`Task.Bounded`)
stays within it, step by step. A run whose compiler is disciplined stays within the territory of its
language, and since it does nothing while a directory of documents is missing, it never makes one of
these (`Task.Confined.within_course`).
-/

namespace SnippetCheck

open Action Files Workspace Phase

/-! ## The territory of a language -/

namespace LanguagePaths

/-- Where directories are made if they are missing. -/
def ways (paths : LanguagePaths) (cwd : Location) : Set Location :=
  {location | location ∈ stages cwd paths.generatedDir ++ stages cwd paths.classesDir ++
    (stages cwd paths.cacheFile).dropLast ++ (stages cwd paths.baselineFile).dropLast}

/-- Where files of a language are written: its sources, its cache and its baseline. -/
def written (paths : LanguagePaths) (language : Language) (cwd : Location) : Set Location :=
  {location | location.dropLast = target cwd paths.generatedDir ∧
      extensionAt? location = some language.extension ∨
    location = target cwd paths.cacheFile ∨ location = target cwd paths.baselineFile}

/-- What runs of a language leave: the files that are written, and the classes. -/
def outputs (paths : LanguagePaths) (language : Language) (cwd : Location) : Set Location :=
  paths.written language cwd ∪ {location | target cwd paths.classesDir <+: location}

/-- What runs of a language leave that is removed by cleaning: the sources, the classes and the
cache. -/
def footprint (paths : LanguagePaths) (language : Language) (cwd : Location) : Set Location :=
  sites (target cwd paths.generatedDir) language.extension ∪
    {location | target cwd paths.classesDir <+: location} ∪ {target cwd paths.cacheFile}

/-- The territory of a language, with what the command for the classpath scratches. -/
def territory (paths : LanguagePaths) (language : Language) (cwd : Location)
    (scratch barred : Set Location) : Territory where
  ways := paths.ways cwd
  own := paths.outputs language cwd ∪ scratch
  barred := barred

instance (paths : LanguagePaths) (cwd location : Location) :
    Decidable (location ∈ paths.ways cwd) :=
  inferInstanceAs (Decidable (location ∈ (_ : List Location)))

instance (paths : LanguagePaths) (language : Language) (cwd location : Location) :
    Decidable (location ∈ paths.footprint language cwd) :=
  inferInstanceAs (Decidable ((location ∈ sites _ _ ∨ _ <+: location) ∨ location = _))

instance (paths : LanguagePaths) (language : Language) (cwd location : Location) :
    Decidable (location ∈ paths.outputs language cwd) :=
  inferInstanceAs (Decidable ((_ = _ ∧ _ = _ ∨ location = _ ∨ location = _) ∨ _ <+: location))

variable {paths : LanguagePaths} {language : Language} {cwd location : Location}
  {scratch barred : Set Location}

/-- The footprint is the sources, the classes and the cache. -/
theorem mem_footprint_iff :
    location ∈ paths.footprint language cwd ↔
      location ∈ sites (target cwd paths.generatedDir) language.extension ∨
        target cwd paths.classesDir <+: location ∨ location = target cwd paths.cacheFile := by
  simp only [footprint, Set.mem_union, Set.mem_ofPred_eq, Set.mem_singleton_iff, or_assoc]

/-- What runs leave is the footprint and the baseline. -/
theorem mem_outputs_iff :
    location ∈ paths.outputs language cwd ↔
      location ∈ paths.footprint language cwd ∨ location = target cwd paths.baselineFile := by
  rw [mem_footprint_iff]
  simp only [outputs, written, sites, Set.mem_union, Set.mem_ofPred_eq]
  tauto

/-- What is written belongs to the territory. -/
theorem mem_own_of_mem_written (h : location ∈ paths.written language cwd) :
    location ∈ (paths.territory language cwd scratch barred).own :=
  .inl (.inl h)

/-- The classes belong to the territory. -/
theorem mem_own_of_isPrefix (h : target cwd paths.classesDir <+: location) :
    location ∈ (paths.territory language cwd scratch barred).own :=
  .inl (.inr h)

/-- The sources that may be found are written. -/
theorem mem_written_of_mem_sources
    (h : location ∈ Tree.sources cwd paths.generatedDir language.extension) :
    location ∈ paths.written language cwd :=
  .inl ⟨Tree.dropLast_of_mem_sources h, Tree.extensionAt?_of_mem_sources h⟩

/-- The sources of units are written. -/
theorem target_pathIn_mem_written {sourceUnit : SourceUnit} (h : sourceUnit.WellNamed language) :
    target cwd (sourceUnit.pathIn paths.generatedDir) ∈ paths.written language cwd := by
  refine .inl ⟨?_, h.extensionAt?_target_pathIn cwd _⟩
  rw [h.target_pathIn, List.dropLast_concat]

end LanguagePaths

/-- What a task launches is confined to its territory: the compiler is disciplined, and the command
for the classpath only changes what it scratches. Nothing is written where files are barred. -/
structure Task.Confined (task : Task) (machine : Machine) (cwd : Location)
    (scratch barred : Set Location) : Prop where
  paths : ∃ given root, task.paths = PathsSection.resolve given root task.language
  written : ∀ location ∈ task.paths.written task.language cwd, location ∉ barred
  scratched : ∀ location ∈ scratch, location ∉ barred
  proper : machine.KeepsProper
  compiler : task.session.Disciplined machine cwd barred
  exporter : ∀ exporter, task.classpath.exporter = some exporter →
    ∀ command ∈ exporter.commands task.version, ∀ files : Tree, files.Proper →
      ∀ location ∉ scratch, (machine.run command cwd files).2.get? location = files.get? location

/-! ## What runs keep -/

namespace Phase

/-- No phase changes what a run is to do. -/
theorem task_eq_of_yields_of_mem_all {machine : Machine} {phase : Phase} {run next : Run}
    {start final : Workspace} (hphase : phase ∈ Phase.all machine)
    (h : (phase.perform run).Yields start next final) : next.task = run.task := by
  simp only [Phase.all, List.mem_cons, List.not_mem_nil, or_false] at hphase
  rcases hphase with rfl | rfl | rfl | rfl | rfl
  · exact task_eq_of_yields (by simp) h
  · exact task_eq_of_yields (by simp) h
  · exact task_eq_of_yields (by simp) h
  · obtain ⟨_, _, _, _, -, -, -, rfl⟩ := compile_perform_yields h
    rfl
  · cases hmode : run.task.mode with
    | normal =>
      rw [captureBaseline_perform_of_normal hmode] at h
      obtain ⟨rfl, -⟩ := yields_pure.1 h
      rfl
    | capture =>
      rw [captureBaseline_perform_of_capture hmode] at h
      obtain ⟨_, _, -, hnext⟩ := yields_bind.1 h
      obtain ⟨rfl, -⟩ := yields_pure.1 hnext
      rfl

end Phase

/-- What every phase keeps that works on a task, a course of them keeps, wherever it stops. -/
theorem Pipeline.holds_performAll_of_keeps {machine : Machine} {task : Task}
    {holds : Workspace → Prop} {phases : List Phase} (hphases : phases ⊆ Phase.all machine)
    (hkeeps : ∀ phase ∈ phases, ∀ run : Run, run.task = task → (phase.perform run).Keeps holds)
    {run : Run} (hrun : run.task = task) {start : Workspace} (hstart : holds start) :
    holds ((performAll (phases.map .work) run).run start).2 := by
  induction phases generalizing run start with
  | nil => exact hstart
  | cons phase phases ih =>
    obtain ⟨hphase, hlater⟩ := List.cons_subset.1 hphases
    have hkept := hkeeps phase List.mem_cons_self run hrun start hstart
    rw [List.map_cons]
    refine @ends_performAll_cons _ _ _ _ (fun _ final => holds final)
      (fun error final hexec => ?_) fun next between hyields => ?_
    · rw [Event.perform] at hexec
      rwa [hexec] at hkept
    · rw [Event.perform] at hyields
      rw [hyields] at hkept
      refine ih hlater (fun other hother => hkeeps other (List.mem_cons_of_mem phase hother)) ?_
        hkept
      exact (task_eq_of_yields_of_mem_all hphase hyields).trans hrun

/-! ## What every step keeps -/

/-- Every step of a task keeps a property of workspaces: what the task removes and what it writes,
and its session. The baseline is changed only if failures are captured. -/
structure Task.StepsKeep (task : Task) (machine : Machine) (holds : Workspace → Prop) : Prop where
  sources :
    (removeFilesWithExtension task.paths.generatedDir task.language.extension).Keeps holds
  classes : (removeDirectoryIfPresent task.paths.classesDir).Keeps holds
  unit : ∀ sourceUnit : SourceUnit, sourceUnit.WellNamed task.language →
    (writeText (sourceUnit.pathIn task.paths.generatedDir) sourceUnit.source).Keeps holds
  forget : (removeFileIfPresent task.paths.cacheFile).Keeps holds
  save : ∀ content, (writeText task.paths.cacheFile content).Keeps holds
  release : task.mode = .capture → (removeFileIfPresent task.paths.baselineFile).Keeps holds
  capture : task.mode = .capture →
    ∀ content, (writeText task.paths.baselineFile content).Keeps holds
  session : ∀ units, (task.session.compile machine task.version units).Keeps holds

namespace Task.StepsKeep

variable {task : Task} {machine : Machine} {holds : Workspace → Prop}
  (h : task.StepsKeep machine holds)
include h

/-- Replacing the units keeps what every step keeps. -/
private theorem keeps_replaceUnits {units : List SourceUnit}
    (hnamed : ∀ sourceUnit ∈ units, sourceUnit.WellNamed task.language) :
    (replaceUnits task.paths task.language units).Keeps holds :=
  .replaceUnits h.sources h.classes fun sourceUnit hmem =>
    h.unit sourceUnit (hnamed sourceUnit hmem)

/-- A phase keeps what every step keeps. -/
theorem keeps_phase {phase : Phase} (hphase : phase ∈ Phase.all machine) {run : Run}
    (hrun : run.task = task) : (phase.perform run).Keeps holds := by
  subst hrun
  simp only [Phase.all, List.mem_cons, List.not_mem_nil, or_false] at hphase
  rcases hphase with rfl | rfl | rfl | rfl | rfl
  · exact fun start hstart => (exec_extract run start).symm ▸ hstart
  · exact fun start hstart => (exec_filterBaseline run start).symm ▸ hstart
  · exact keeps_generate_of_replaceUnits (h.keeps_replaceUnits fun _ =>
      SourceUnit.wellNamed_of_mem_ofSnippets)
  · refine (Keeps.describing _ (.forgetCache fun _ => h.forget)).bind fun _ => ?_
    refine Keeps.bind (fun _ h => h) fun workspace => ?_
    exact (Keeps.describing _ (h.session _)).bind fun fresh =>
      (Keeps.describing _ (h.save _)).bind fun _ => .pure _
  · exact .captureBaseline h.release h.capture

/-- A run keeps what every step keeps, wherever it stops. -/
theorem holds_course {start : Workspace} (hstart : holds start) :
    holds ((({} : Pipeline).course machine task).run start).2 := by
  rw [Pipeline.course, Pipeline.schedule_default]
  exact Pipeline.holds_performAll_of_keeps (List.Subset.refl _)
    (fun phase hphase run hrun => h.keeps_phase hphase hrun) rfl hstart

end Task.StepsKeep

/-! ## Bounded tasks -/

/-- A task is bounded by a territory: what it removes and writes are places of the territory, and
what it launches stays within it. -/
structure Task.Bounded (task : Task) (machine : Machine) (cwd : Location) (territory : Territory)
    (origin : Tree) : Prop where
  paths : ∃ given root, task.paths = PathsSection.resolve given root task.language
  ways : task.paths.ways cwd ⊆ territory.ways
  sources : ∀ location ∈ sites (target cwd task.paths.generatedDir) task.language.extension,
    location ∈ territory.own ∧ location ∉ territory.barred
  classes : ∀ location, target cwd task.paths.classesDir <+: location → location ∈ territory.own
  cache : target cwd task.paths.cacheFile ∈ territory.own ∧
    target cwd task.paths.cacheFile ∉ territory.barred
  baseline : task.mode = .capture → target cwd task.paths.baselineFile ∈ territory.own ∧
    target cwd task.paths.baselineFile ∉ territory.barred
  proper : machine.KeepsProper
  compiler : ∀ classpath source, ∀ files : Tree, files.Proper → territory.Allows origin files →
    territory.Allows files (machine.run (task.session.command classpath source) cwd files).2
  exporter : ∀ command ∈ task.classpath.commands task.version, ∀ files : Tree, files.Proper →
    territory.Allows origin files → territory.Allows files (machine.run command cwd files).2

/-- The sources of units stand where files with their extension do. -/
theorem SourceUnit.WellNamed.target_pathIn_mem_sites {language : Language}
    {sourceUnit : SourceUnit} (h : sourceUnit.WellNamed language) (cwd : Location) (dir : String) :
    target cwd (sourceUnit.pathIn dir) ∈ sites (target cwd dir) language.extension := by
  refine ⟨?_, h.extensionAt?_target_pathIn cwd dir⟩
  rw [h.target_pathIn, List.dropLast_concat]

namespace Task.Bounded

variable {task : Task} {machine : Machine} {cwd : Location} {territory : Territory}
  {origin : Tree} (h : task.Bounded machine cwd territory origin)
include h

/-- Writing a file to one of its places stays within the territory. -/
private theorem keeps_within_writeText {path : String}
    (hpath : ∃ dir name, IsName name ∧ path = Path.join dir name)
    (hways : ∀ stage ∈ (stages cwd path).dropLast, stage ∈ task.paths.ways cwd)
    (hplace : target cwd path ∈ territory.own ∧ target cwd path ∉ territory.barred)
    (content : String) : (writeText path content).Keeps (Within cwd territory origin) := by
  obtain ⟨dir, name, hname, rfl⟩ := hpath
  refine Action.keeps_within_writeText hname content (fun stage hstage => h.ways ?_) hplace.1
    hplace.2
  exact hways stage ((mem_dropLast_stages_join hname dir).2 hstage)

/-- Every step of a bounded task stays within its territory. -/
theorem stepsKeep_within : task.StepsKeep machine (Within cwd territory origin) := by
  obtain ⟨given, root, hpaths⟩ := h.paths
  constructor
  case sources =>
    exact keeps_within_removeFilesWithExtension fun location hmem =>
      (h.sources location (Tree.mem_sites_of_mem_sources hmem)).1
  case classes => exact keeps_within_removeDirectoryIfPresent h.classes
  case unit =>
    intro sourceUnit hunit
    refine h.keeps_within_writeText ⟨_, _, hunit.isName, rfl⟩ (fun stage hstage => ?_)
      (h.sources _ (hunit.target_pathIn_mem_sites _ _)) _
    -- the way to a unit is the way to its directory
    have hdir := (mem_dropLast_stages_join hunit.isName _).1 hstage
    simp [LanguagePaths.ways, hdir]
  case forget => exact keeps_within_removeFileIfPresent h.cache.1
  case save =>
    refine h.keeps_within_writeText ?_ (fun stage hstage => ?_) h.cache
    · rw [hpaths]
      exact PathsSection.exists_cacheFile_eq given root task.language
    · simp [LanguagePaths.ways, hstage]
  case release => exact fun hmode => keeps_within_removeFileIfPresent (h.baseline hmode).1
  case capture =>
    intro hmode
    refine h.keeps_within_writeText ?_ (fun stage hstage => ?_) (h.baseline hmode)
    · rw [hpaths]
      exact PathsSection.exists_baselineFile_eq given root task.language
    · simp [LanguagePaths.ways, hstage]
  case session =>
    refine Compiler.Session.keeps_compile (fun classpath source => ?_) (fun command hcommand => ?_)
      (keeps_within_makeDirectories _ fun stage hstage => h.ways ?_)
    · suffices hlaunch : (Action.launch machine (task.session.command classpath source) :
          Action Compiler.CompileError (Option Finished)).Keeps (Within cwd territory origin) from
        hlaunch
      exact keeps_within_launch fun files hfiles hallows =>
        ⟨h.proper _ _ _ hfiles, h.compiler classpath source files hfiles hallows⟩
    · suffices hlaunch : (Action.launch machine command :
          Action Compiler.CompileError (Option Finished)).Keeps (Within cwd territory origin) from
        hlaunch
      exact keeps_within_launch fun files hfiles hallows =>
        ⟨h.proper _ _ _ hfiles, h.exporter command hcommand files hfiles hallows⟩
    · have hclasses : stage ∈ stages cwd task.paths.classesDir := hstage
      simp [LanguagePaths.ways, hclasses]

end Task.Bounded

namespace Task.Confined

variable {task : Task} {machine : Machine} {cwd : Location} {scratch barred : Set Location}
  {origin : Tree} (h : task.Confined machine cwd scratch barred)
include h

/-- A confined task is bounded by the territory of its language. -/
private theorem bounded
    (horigin : ∀ location ∈ task.paths.outputs task.language cwd, location ∈ barred →
      origin.fileAt? location = none) :
    task.Bounded machine cwd (task.paths.territory task.language cwd scratch barred) origin where
  paths := h.paths
  ways := subset_rfl
  sources location hmem :=
    have hwritten : location ∈ task.paths.written task.language cwd := .inl hmem
    ⟨LanguagePaths.mem_own_of_mem_written hwritten, h.written location hwritten⟩
  classes location hinside := LanguagePaths.mem_own_of_isPrefix hinside
  cache := ⟨LanguagePaths.mem_own_of_mem_written (.inr (.inl rfl)), h.written _ (.inr (.inl rfl))⟩
  baseline _ :=
    ⟨LanguagePaths.mem_own_of_mem_written (.inr (.inr rfl)), h.written _ (.inr (.inr rfl))⟩
  proper := h.proper
  compiler classpath source files hfiles hallows := by
    have hcompiler : task.session.Disciplined machine cwd
        (task.paths.territory task.language cwd scratch barred).barred := h.compiler
    exact hcompiler.allows (fun location hinside => LanguagePaths.mem_own_of_isPrefix hinside)
      (fun location hinside hbar => horigin location (.inr hinside) hbar) hfiles hallows classpath
      source
  exporter command hcommand files hfiles _ := by
    refine Territory.allows_of_same (fun location hmem => ⟨.inr hmem, h.scratched location hmem⟩) ?_
    unfold Compiler.Classpath.commands at hcommand
    split at hcommand
    next => cases hcommand
    next exporter hsome => exact h.exporter exporter hsome command hcommand files hfiles

/-- A run stays within the territory, wherever it stops, and makes no directory of documents. -/
theorem within_course {start : Workspace} (hstart : start.ProperAt cwd)
    (hfiles : ∀ location ∈ task.paths.outputs task.language cwd, location ∈ barred →
      start.files.fileAt? location = none) :
    Within cwd ((task.paths.territory task.language cwd scratch barred).restrict
        {location | ∀ docs ∈ task.docs, location ≠ target cwd (Path.join task.root docs)})
      start.files ((({} : Pipeline).course machine task).run start).2 := by
  rw [Pipeline.course, Pipeline.schedule_default]
  refine @Pipeline.ends_performAll_cons _ _ _ _ (fun _ final => Within cwd _ start.files final)
    (fun error final hexec => ?_) fun extracted between hextract => ?_
  · -- nothing has happened yet
    have hsame := exec_extract { task } start
    rw [Event.perform] at hexec
    rw [hexec] at hsame
    obtain rfl : final = start := hsame
    exact ⟨hstart, .refl _ _⟩
  · rw [Event.perform] at hextract
    have hmissing := missingRoots_of_extract_perform_yields hextract
    have htask := task_eq_of_yields (by simp) hextract
    obtain ⟨rfl, -⟩ := extract_perform_yields hextract
    have hwithin := Pipeline.holds_performAll_of_keeps
      (fun phase hphase => List.mem_cons_of_mem extract hphase)
      (fun phase hphase run hrun =>
        (h.bounded hfiles).stepsKeep_within.keeps_phase (List.mem_cons_of_mem _ hphase) hrun)
      htask ⟨hstart, .refl _ between.files⟩
    refine ⟨hwithin.toProperAt, hwithin.allows.restrict fun location _ _ hnone docs hmem heq => ?_⟩
    -- a directory of documents is not missing
    have hpresent : between.isDirectory (Path.join task.root docs) = true := by
      have hall := List.filter_eq_nil_iff.1 hmissing docs hmem
      simpa using hall
    rw [Workspace.isDirectory, Tree.isDirectory_iff, hstart.cwd] at hpresent
    rw [heq, (Tree.node_eq_ok.1 hpresent).2] at hnone
    cases hnone

end Task.Confined

end SnippetCheck
