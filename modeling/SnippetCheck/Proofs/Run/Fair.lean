import SnippetCheck.Proofs.Compiler.Reading
import SnippetCheck.Proofs.Manifest.Paths
import SnippetCheck.Proofs.Run.Course

/-!
# Fair Runs

A run is fair when its files stand where a manifest puts them, its units have distinct class names,
and what its session finds for a unit is a function of the unit (`Task.Fair`). A fair run that
succeeds settles every unit by that function and by what its cache file held, and leaves the cache
of its outcomes in that file (`Task.Fair.run_yields`).
-/

namespace SnippetCheck

open Action Files Workspace

namespace Phase

variable {machine : Machine} {found : SourceUnit → List String} {location : Location}
  {run next : Run} {start forgotten compiled final : Workspace}
  {fresh : List (String × List String)}

/-! ## Ready to compile -/

/-- A run is ready to compile: its units are well named and distinct and can be read where they
stand, its session finds for them what `found` says, and its cache file, at the location, is no
source file. -/
structure Ready (machine : Machine) (location : Location) (found : SourceUnit → List String)
    (run : Run) (start : Workspace) : Prop where
  named : ∀ sourceUnit ∈ run.units, SourceUnit.WellNamed run.task.language sourceUnit
  names : (run.units.map SourceUnit.className).Nodup
  finds : run.task.session.Finds machine run.task.version found run.units
  reads : start.ReadsUnits run.task.paths.generatedDir run.units
  cache : target start.cwd run.task.paths.cacheFile = location
  extension : extensionAt? location ≠ some run.task.language.extension

/-- Forgetting the cache removes no unit. -/
theorem readsUnits_of_forgetCache (hready : Ready machine location found run start)
    (h : (forgetCache run.task).Yields start () forgotten) :
    forgotten.ReadsUnits run.task.paths.generatedDir run.units := by
  intro sourceUnit hmem
  have hkeeps : (forgetCache run.task).Keeps
      (Reads start.cwd (sourceUnit.pathIn run.task.paths.generatedDir) sourceUnit.source) := by
    refine .forgetCache fun _ => .reads fun origin horigin => keeps_removeFileIfPresent ?_
    rw [horigin, hready.cache]
    exact ((hready.named sourceUnit hmem).ne_target_pathIn hready.extension _ _).symm
  exact (hkeeps.of_yields h ⟨rfl, hready.reads sourceUnit hmem⟩).2

/-- When a run is ready, compiling settles its units by what is found for them. -/
theorem outcomes_of_ready (hready : Ready machine location found run start)
    (hforget : (forgetCache run.task).Yields start () forgotten)
    (hcompile : (run.task.session.compile machine run.task.version
      (pending (loadedCache run.task start) run.units)).Yields forgotten fresh compiled) :
    outcomes (loadedCache run.task start) run.units fresh =
      run.units.map (settle (loadedCache run.task start) found) := by
  rw [hready.finds _ _ _ _ (pending_sublist _ _) (readsUnits_of_forgetCache hready hforget)
    hcompile, outcomes_map_pending _ _ hready.names]

/-- How a run has ended that found these snippets and had these outcomes for its units. -/
def endedRun (task : Task) (workspace : Workspace) (snippets : List Snippet)
    (outcome : SourceUnit → Outcome) (diagnostics : List Diagnostic) : Run :=
  let ready := readyRun task workspace snippets diagnostics
  let compiled := { ready with outcomes := ready.units.map outcome }
  { compiled with
    baseline := updateOf task.mode task.paths.baselineFile (captured compiled) }

/-- How a run has ended depends on the outcomes for its units only. -/
theorem endedRun_congr {task : Task} {workspace : Workspace} {snippets : List Snippet}
    {outcome other : SourceUnit → Outcome} {diagnostics : List Diagnostic}
    (h : ∀ sourceUnit ∈ consideredUnits task workspace snippets,
      outcome sourceUnit = other sourceUnit) :
    endedRun task workspace snippets outcome diagnostics =
      endedRun task workspace snippets other diagnostics := by
  have houtcomes : (readyRun task workspace snippets diagnostics).units.map outcome =
      (readyRun task workspace snippets diagnostics).units.map other := List.map_congr_left h
  unfold endedRun
  dsimp only
  rw [houtcomes]

end Phase

open Phase

/-! ## What a cache file holds -/

/-- A cache is held by a cache file for an SDK version, or is the empty one. -/
def Cache.Held (content? : Option ByteArray) (version : SdkVersion) (cache : Cache) : Prop :=
  cache = .empty ∨ ∃ bytes, content? = some bytes ∧ ofBytes? bytes = some (version.text, cache)

/-- Only the empty cache is held by no cache file. -/
theorem Cache.eq_empty_of_held_none {version : SdkVersion} {cache : Cache}
    (h : Held none version cache) : cache = .empty := by
  rcases h with rfl | ⟨_, hnone, -⟩
  · rfl
  · cases hnone

/-- The cache that a compile phase goes by is held by the cache file. -/
theorem Phase.held_loadedCache (task : Task) (workspace : Workspace) :
    Cache.Held (workspace.files.fileAt? (target workspace.cwd task.paths.cacheFile)) task.version
      (loadedCache task workspace) := by
  unfold loadedCache
  split
  next => exact .inl rfl
  next =>
    cases hload : Cache.load workspace task.paths.cacheFile task.version with
    | error error => exact .inl rfl
    | ok cache => exact .inr (Cache.exists_ofBytes?_of_load hload)

/-! ## Fair runs -/

/-- The files of a run stand where a manifest puts them, with the cache file at the location. -/
structure Task.Placed (location : Location) (task : Task) (cwd : Location) : Prop where
  paths : ∃ given root, task.paths = PathsSection.resolve given root task.language
  cache : target cwd task.paths.cacheFile = location

/-- What is assumed of a run: its files are placed, and whenever something happens, the units have
distinct class names, and what the session finds for them is what `found` says. -/
structure Task.Fair (machine : Machine) (location : Location) (found : SourceUnit → List String)
    (task : Task) (start : Workspace) : Prop where
  placed : task.Placed location start.cwd
  names : ∀ entry ∈ ((({} : Pipeline).course machine task).run start).1.trail,
    (entry.2.units.map SourceUnit.className).Nodup
  finds : ∀ entry ∈ ((({} : Pipeline).course machine task).run start).1.trail,
    task.session.Finds machine task.version found entry.2.units

variable {machine : Machine} {found : SourceUnit → List String} {location : Location}
  {task : Task} {start : Workspace}

/-- For a machine that reads, a run is fair if `found` says of its units how their sources are
judged. -/
theorem Task.fair_of_reading {judge : ByteArray → Finished}
    (hplaced : task.Placed location start.cwd)
    (hunits : ∀ entry ∈ ((({} : Pipeline).course (.reading judge) task).run start).1.trail,
      (entry.2.units.map SourceUnit.className).Nodup ∧ ∀ sourceUnit ∈ entry.2.units,
        task.session.resultFor sourceUnit (judge sourceUnit.source.toUTF8) = found sourceUnit) :
    task.Fair (.reading judge) location found start where
  placed := hplaced
  names entry hentry := (hunits entry hentry).1
  finds entry hentry := (Compiler.Session.finds_reading _ _).congr (hunits entry hentry).2

namespace Task.Placed

variable {cwd : Location} {snippets : List Snippet}

/-- The cache file is no source file. -/
theorem extension_ne (hplaced : task.Placed location cwd) :
    extensionAt? location ≠ some task.language.extension := by
  obtain ⟨given, root, hpaths⟩ := hplaced.paths
  rw [← hplaced.cache, hpaths, PathsSection.extensionAt?_cacheFile]
  cases task.language <;> decide

/-- The cache file is not the baseline. -/
theorem ne_baselineFile (hplaced : task.Placed location cwd) :
    location ≠ target cwd task.paths.baselineFile := by
  obtain ⟨given, root, hpaths⟩ := hplaced.paths
  rw [← hplaced.cache, hpaths]
  exact PathsSection.target_cacheFile_ne given root task.language cwd

/-- Once the units of a run have been replaced, what holds of its cache file and of none holds of
that file still. -/
theorem holds_of_replaceUnits (hplaced : task.Placed location start.cwd) {generated : Workspace}
    (hreplace : (replaceUnits task.paths task.language
      (consideredUnits task start snippets)).Yields start () generated)
    (property : Option ByteArray → Prop) (hnone : property none)
    (hstart : property (start.files.fileAt? location)) :
    generated.cwd = start.cwd ∧ property (generated.files.fileAt? location) :=
  (keeps_replaceUnits hnone hplaced.extension_ne fun _ =>
    SourceUnit.wellNamed_of_mem_ofSnippets).of_yields hreplace ⟨rfl, hstart⟩

/-- A run whose units have been generated is ready to compile, if they have distinct class names and
what is found for them is what `found` says. -/
theorem ready_readyRun (hplaced : task.Placed location start.cwd) (diagnostics : List Diagnostic)
    {generated : Workspace}
    (hnames : ((consideredUnits task start snippets).map SourceUnit.className).Nodup)
    (hfinds : task.session.Finds machine task.version found (consideredUnits task start snippets))
    (hreplace : (replaceUnits task.paths task.language
      (consideredUnits task start snippets)).Yields start () generated) :
    Ready machine location found (readyRun task start snippets diagnostics) generated := by
  -- names that are made from documents lead to no other place
  have hnamed : ∀ sourceUnit ∈ consideredUnits task start snippets,
      SourceUnit.WellNamed task.language sourceUnit :=
    fun sourceUnit => SourceUnit.wellNamed_of_mem_ofSnippets
  have hcwd : generated.cwd = start.cwd :=
    (hplaced.holds_of_replaceUnits hreplace (fun _ => True) trivial trivial).1
  exact {
    named := hnamed
    names := hnames
    finds := hfinds
    reads := reads_of_replaceUnits hnamed hnames hreplace
    cache := by
      rw [hcwd]
      exact hplaced.cache
    extension := hplaced.extension_ne }

/-- A run that succeeds has found the snippets of its workspace. If their units have distinct class
names and what is found for them is what `found` says, the run has settled them by that and by a
cache that the cache file held, and left the cache of its outcomes in that file. -/
theorem run_yields (hplaced : task.Placed location start.cwd) {run : Run} {final : Workspace}
    (h : (({} : Pipeline).run machine task).Yields start run final) :
    ∃ snippets, task.extraction.run start = .ok snippets ∧
      (∃ entry ∈ ((({} : Pipeline).course machine task).run start).1.trail,
        entry.2.units = consideredUnits task start snippets) ∧
      final.files.fileAt? location =
        some ((cacheOf run.outcomes).toText task.version).toUTF8 ∧
      (((consideredUnits task start snippets).map SourceUnit.className).Nodup →
        ∀ found, task.session.Finds machine task.version found
          (consideredUnits task start snippets) →
        ∃ cache diagnostics, Cache.Held (start.files.fileAt? location) task.version cache ∧
          run = endedRun task start snippets (settle cache found) diagnostics) := by
  obtain ⟨snippets, diagnostics, generated, compiled, compiledRun, hsnippets, hreplace, hcompile,
    hcapture, htrail⟩ := Pipeline.run_yields h
  -- generating keeps the cache file or removes it with the classes
  obtain ⟨hcwd, hheld⟩ := hplaced.holds_of_replaceUnits hreplace
    (fun content? => ∀ cache, Cache.Held content? task.version cache →
      Cache.Held (start.files.fileAt? location) task.version cache)
    (fun _ hnone => .inl (Cache.eq_empty_of_held_none hnone)) fun _ hheld => hheld
  have hcache : target generated.cwd task.paths.cacheFile = location := by
    rw [hcwd]
    exact hplaced.cache
  obtain ⟨hcwd', hfile⟩ := fileAt?_of_compile hcompile
  obtain ⟨_, fresh, _, diagnostics', hforget, hfresh, _, hcompiled⟩ :=
    compile_perform_yields hcompile
  have hrun := captureBaseline_perform_yields (by rw [hcompiled]; rfl) hcapture
  -- the baseline is stored in another file
  have hkeeps : (captureBaseline.perform compiledRun).Keeps
      (HoldsAt start.cwd location (compiled.files.fileAt? location)) := by
    refine keeps_captureBaseline ?_
    rw [hcompiled]
    exact hplaced.ne_baselineFile
  have hsaved := (hkeeps.of_yields hcapture ⟨hcwd'.trans hcwd, rfl⟩).2
  refine ⟨snippets, hsnippets, ⟨_, htrail, rfl⟩, ?_, fun hnames found hfinds => ?_⟩
  · rw [hsaved, hrun, ← hcache]
    exact hfile
  · have hready := hplaced.ready_readyRun diagnostics hnames hfinds hreplace
    rw [outcomes_of_ready hready hforget hfresh] at hcompiled
    refine ⟨_, diagnostics', hheld _ (hcache ▸ held_loadedCache task generated), ?_⟩
    rw [hrun, hcompiled]
    rfl

end Task.Placed

/-- A fair run that succeeds has found the snippets of its workspace, settled their units by what is
found for them and by a cache that the cache file held, and left the cache of its outcomes in that
file. -/
theorem Task.Fair.run_yields (hfair : task.Fair machine location found start) {run : Run}
    {final : Workspace} (h : (({} : Pipeline).run machine task).Yields start run final) :
    (∃ snippets cache diagnostics,
      Cache.Held (start.files.fileAt? location) task.version cache ∧
      run = endedRun task start snippets (settle cache found) diagnostics) ∧
    final.files.fileAt? location =
      some ((cacheOf run.outcomes).toText task.version).toUTF8 := by
  obtain ⟨snippets, -, ⟨entry, hentry, hunits⟩, hfile, hended⟩ := hfair.placed.run_yields h
  have hnames := hfair.names entry hentry
  have hfinds := hfair.finds entry hentry
  rw [hunits] at hnames hfinds
  obtain ⟨cache, diagnostics, hheld, hrun⟩ := hended hnames found hfinds
  exact ⟨⟨snippets, cache, diagnostics, hheld, hrun⟩, hfile⟩

end SnippetCheck
