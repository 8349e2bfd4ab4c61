import SnippetCheck.Proofs.Compiler.Commands
import SnippetCheck.Proofs.Files.Way
import SnippetCheck.Proofs.Run.Fair

/-!
# What A Run Has Gone Through

A run that succeeds has gone through all its stages. A `Passage` is the record of them: what was
found, and the workspaces in between, each with what has led to the next one. There is one for every
run that succeeds (`Pipeline.nonempty_passage`), whatever its class names are, and it gives what was
launched (`Passage.launches_eq`) and what stands in the cache file (`Passage.readText_cacheFile`).
-/

namespace SnippetCheck

open Action Files Workspace Phase

/-! ## What the stages leave alone -/

namespace Workspace.Fileless

variable {holds : Workspace → Prop}

/-- Replacing units keeps what is not about files. -/
theorem replaceUnits (h : Fileless holds) (paths : LanguagePaths) (language : Language)
    (units : List SourceUnit) : (Phase.replaceUnits paths language units).Keeps holds :=
  .replaceUnits (h.removeFilesWithExtension _ _) (h.removeDirectoryIfPresent _) fun _ _ =>
    h.writeText _ _

/-- Forgetting the cache keeps what is not about files. -/
theorem forgetCache (h : Fileless holds) (task : Task) : (Phase.forgetCache task).Keeps holds :=
  .forgetCache fun _ => h.removeFileIfPresent _

/-- Capturing failures keeps what is not about files. -/
theorem captureBaseline (h : Fileless holds) (run : Run) :
    (Phase.captureBaseline.perform run).Keeps holds :=
  .captureBaseline (fun _ => h.removeFileIfPresent _) fun _ => h.writeText _

end Workspace.Fileless

namespace Phase

variable {paths : LanguagePaths} {language : Language} {units : List SourceUnit}
  {cwd location : Location}

/-- Replacing units leaves the bytes that are read by a path of another extension that stays out of
the directory of classes. -/
theorem keeps_replaceUnits_readsBytes {path : String} {bytes : ByteArray}
    (hextension : extensionAt? (target cwd path) ≠ some language.extension)
    (havoids : Avoids (target cwd paths.classesDir) cwd path)
    (hnamed : ∀ sourceUnit ∈ units, SourceUnit.WellNamed language sourceUnit) :
    (replaceUnits paths language units).Keeps (ReadsBytes cwd path bytes) :=
  .replaceUnits (.readsBytes fun _ _ => keeps_removeFilesWithExtension hextension)
    (keeps_removeDirectoryIfPresent_readsBytes havoids) fun sourceUnit hmem =>
      .readsBytes fun _ _ =>
        keeps_writeText ((hnamed sourceUnit hmem).ne_target_pathIn hextension _ _) _

/-- Replacing units leaves the text that is read by a path of another extension that stays out of
the directory of classes. -/
theorem keeps_replaceUnits_reads {path text : String}
    (hextension : extensionAt? (target cwd path) ≠ some language.extension)
    (havoids : Avoids (target cwd paths.classesDir) cwd path)
    (hnamed : ∀ sourceUnit ∈ units, SourceUnit.WellNamed language sourceUnit) :
    (replaceUnits paths language units).Keeps (Reads cwd path text) := by
  rw [reads_eq]
  exact keeps_replaceUnits_readsBytes hextension havoids hnamed

/-- Replacing units leaves a file of another extension that stands outside the directory of
classes. -/
theorem keeps_replaceUnits_holdsAt {content : Option ByteArray}
    (hextension : extensionAt? location ≠ some language.extension)
    (houtside : ¬ target cwd paths.classesDir <+: location)
    (hnamed : ∀ sourceUnit ∈ units, SourceUnit.WellNamed language sourceUnit) :
    (replaceUnits paths language units).Keeps (HoldsAt cwd location content) :=
  .replaceUnits (.holdsAt fun _ _ => keeps_removeFilesWithExtension hextension)
    (keeps_removeDirectoryIfPresent_holdsAt houtside) fun sourceUnit hmem =>
      .holdsAt fun _ _ =>
        keeps_writeText ((hnamed sourceUnit hmem).ne_target_pathIn hextension _ _) _

end Phase

/-- The files of a run stand where a manifest puts them, and its cache file is read without going
through the directory of classes. -/
structure Task.Sited (task : Task) (cwd : Location) : Prop where
  paths : ∃ given root, task.paths = PathsSection.resolve given root task.language
  cache : Avoids (target cwd task.paths.classesDir) cwd task.paths.cacheFile

/-- The cache file is no source file. -/
theorem Task.Sited.extension_ne {task : Task} {cwd : Location} (hsited : task.Sited cwd) :
    extensionAt? (target cwd task.paths.cacheFile) ≠ some task.language.extension :=
  Task.Placed.extension_ne ⟨hsited.paths, rfl⟩

/-- A run is fair if it is placed, the units of the snippets that it considers have distinct class
names, and what the session finds for them is what `found` says. -/
theorem Task.fair_of_units {machine : Machine} {task : Task} {location : Location}
    {found : SourceUnit → List String} {start : Workspace}
    (hplaced : task.Placed location start.cwd)
    (hunits : ∀ snippets, task.extraction.run start = .ok snippets →
      ((consideredUnits task start snippets).map SourceUnit.className).Nodup ∧
        task.session.Finds machine task.version found (consideredUnits task start snippets)) :
    task.Fair machine location found start where
  placed := hplaced
  names entry hentry := by
    rcases Pipeline.units_of_mem_trail entry hentry with hnone | ⟨snippets, hsnippets, heq⟩
    · rw [hnone]
      exact List.nodup_nil
    · rw [heq]
      exact (hunits snippets hsnippets).1
  finds entry hentry := by
    rcases Pipeline.units_of_mem_trail entry hentry with hnone | ⟨snippets, hsnippets, heq⟩
    · rw [hnone]
      intro pending _ results _ hsublist _ h
      obtain rfl := List.sublist_nil.1 hsublist
      exact (yields_pure.1 h).1
    · rw [heq]
      exact (hunits snippets hsnippets).2

/-! ## Outcomes and their units -/

/-- An outcome is about a unit: it has the unit's place, class name and hash. -/
structure Outcome.IsFor (sourceUnit : SourceUnit) (outcome : Outcome) : Prop where
  id : outcome.id = sourceUnit.snippet.id
  className : outcome.className = sourceUnit.className
  hash : outcome.hash = sourceUnit.snippet.hash

namespace Phase

/-- There is one outcome for every unit, in their order, whatever was found. -/
theorem forall₂_isFor_outcomes (cache : Cache) (units : List SourceUnit)
    (fresh : List (String × List String)) :
    List.Forall₂ Outcome.IsFor units (outcomes cache units fresh) := by
  induction units generalizing fresh with
  | nil => exact .nil
  | cons sourceUnit units ih =>
    rw [outcomes]
    split
    next => exact .cons ⟨rfl, rfl, rfl⟩ (ih _)
    next => exact .cons ⟨rfl, rfl, rfl⟩ (ih _)

end Phase

/-! ## Passages -/

/-- What a run has gone through that has succeeded: it has found snippets, replaced the units of
those that are considered, forgotten the cache if that was asked for, compiled what the cache did
not know, and stored its outcomes and what it captured. -/
structure Passage (machine : Machine) (task : Task) (start : Workspace) (run : Run)
    (final : Workspace) where
  /-- The snippets that were found. -/
  snippets : List Snippet
  /-- What there was once the units had been generated. -/
  generated : Workspace
  /-- What there was once the cache had been forgotten, if that was asked for. -/
  forgotten : Workspace
  /-- What was found for the pending units. -/
  fresh : List (String × List String)
  /-- What there was once the pending units had been compiled. -/
  compiled : Workspace
  /-- What there was once the outcomes had been stored. -/
  stored : Workspace
  task_eq : run.task = task
  extraction_eq : task.extraction.run start = .ok snippets
  snippets_eq : run.snippets = considered task start snippets
  skipped_eq : run.skipped = snippets.length - run.snippets.length
  units_eq : run.units = consideredUnits task start snippets
  replaces : (replaceUnits task.paths task.language run.units).Yields start () generated
  forgets : (forgetCache task).Yields generated () forgotten
  compiles : (task.session.compile machine task.version
    (pending (loadedCache task generated) run.units)).Yields forgotten fresh compiled
  outcomes_eq : run.outcomes = outcomes (loadedCache task generated) run.units fresh
  stores : ((cacheOf run.outcomes).save task.paths.cacheFile task.version).Yields compiled () stored
  captures : (captureBaseline.perform { run with baseline := none }).Yields stored run final
  trail : ∃ entry ∈ ((({} : Pipeline).course machine task).run start).1.trail,
    entry.2.units = run.units

variable {machine : Machine} {task : Task} {start final : Workspace} {run : Run}

/-- A run that succeeds has gone through all its stages. -/
theorem Pipeline.nonempty_passage
    (h : (({} : Pipeline).run machine task).Yields start run final) :
    Nonempty (Passage machine task start run final) := by
  obtain ⟨snippets, diagnostics, generated, stored, compiledRun, hsnippets, hreplace, hcompile,
    hcapture, htrail⟩ := Pipeline.run_yields h
  obtain ⟨forgotten, fresh, compiled, diagnostics', hforget, hfresh, hsave, rfl⟩ :=
    compile_perform_yields hcompile
  obtain rfl := captureBaseline_perform_yields rfl hcapture
  exact ⟨{
    snippets, generated, forgotten, fresh, compiled, stored
    task_eq := rfl
    extraction_eq := hsnippets
    snippets_eq := rfl
    skipped_eq := rfl
    units_eq := rfl
    replaces := hreplace
    forgets := hforget
    compiles := hfresh
    outcomes_eq := rfl
    stores := hsave
    captures := hcapture
    trail := ⟨_, htrail, rfl⟩ }⟩

/-- When a run succeeds, its directories of documents are there. -/
theorem Pipeline.missingRoots_eq_nil
    (h : (({} : Pipeline).run machine task).Yields start run final) :
    missingRoots task start = [] := by
  obtain ⟨hresult, -⟩ := run_yields_iff.1 h
  rw [course, schedule_default] at hresult
  obtain ⟨extracted, between, hextract, -⟩ := exists_performAll_eq_ok hresult
  exact missingRoots_of_extract_perform_yields hextract

namespace Passage

/-- There is one outcome for every unit, in their order. -/
theorem forall₂_isFor (passage : Passage machine task start run final) :
    List.Forall₂ Outcome.IsFor run.units run.outcomes := by
  rw [passage.outcomes_eq]
  exact forall₂_isFor_outcomes _ _ _

/-- The outcomes have the hashes of the units. -/
theorem map_hash_outcomes (passage : Passage machine task start run final) :
    run.outcomes.map Outcome.hash = run.units.map fun sourceUnit => sourceUnit.snippet.hash := by
  rw [← List.forall₂_eq_eq_eq, List.forall₂_map_left_iff, List.forall₂_map_right_iff]
  exact passage.forall₂_isFor.flip.imp fun _ _ h => h.hash

/-- The units are those of the snippets that are considered. -/
theorem map_snippet_units (passage : Passage machine task start run final) :
    run.units.map SourceUnit.snippet = run.snippets := by
  rw [passage.units_eq, passage.snippets_eq, consideredUnits, SourceUnit.map_snippet_ofSnippets]

/-- There are as many outcomes as snippets that are considered. -/
theorem length_outcomes (passage : Passage machine task start run final) :
    run.outcomes.length = run.snippets.length := by
  rw [← passage.map_snippet_units, List.length_map, passage.forall₂_isFor.length_eq]

/-- When a run is fair, its units are settled by what is found for them. -/
theorem outcomes_of_fair (passage : Passage machine task start run final) {location : Location}
    {found : SourceUnit → List String} (hfair : task.Fair machine location found start) :
    run.outcomes = run.units.map (settle (loadedCache task passage.generated) found) := by
  obtain ⟨entry, hentry, hunits⟩ := passage.trail
  have hnames := hfair.names entry hentry
  have hfinds := hfair.finds entry hentry
  have hreplace := passage.replaces
  have hcompile := passage.compiles
  rw [passage.units_eq] at hunits hreplace hcompile
  rw [hunits] at hnames hfinds
  have hready := hfair.placed.ready_readyRun [] hnames hfinds hreplace
  rw [passage.outcomes_eq, passage.units_eq]
  exact outcomes_of_ready hready passage.forgets hcompile

/-- A unit is well named. -/
theorem wellNamed (passage : Passage machine task start run final) :
    ∀ sourceUnit ∈ run.units, SourceUnit.WellNamed task.language sourceUnit := by
  rw [passage.units_eq]
  exact fun _ => SourceUnit.wellNamed_of_mem_ofSnippets

/-- Generating units launches nothing and does not move the working directory. -/
theorem generated_eq (passage : Passage machine task start run final) :
    passage.generated.cwd = start.cwd ∧ passage.generated.launches = start.launches :=
  ((fileless_cwd_launches _ _).replaceUnits _ _ _).of_yields passage.replaces ⟨rfl, rfl⟩

/-- What a run has launched are the commands of its session for the units that the cache did not
know. -/
theorem launches_eq (passage : Passage machine task start run final) :
    ∃ classpath, final.launches = start.launches ++ task.session.commands task.version classpath
      (pending (loadedCache task passage.generated) run.units) := by
  obtain ⟨classpath, hlaunches⟩ := Compiler.Session.launches_compile passage.compiles
  have hforgotten := ((fileless_cwd_launches _ _).forgetCache task).of_yields passage.forgets
    ⟨rfl, rfl⟩
  have hfinal := ((fileless_cwd_launches _ _).captureBaseline _).of_yields passage.captures
    ⟨rfl, rfl⟩
  refine ⟨classpath, ?_⟩
  rw [hfinal.2, launches_of_writeText passage.stores, hlaunches, hforgotten.2,
    passage.generated_eq.2]

/-- A normal run goes by the cache that it finds in its cache file. -/
theorem loadedCache_eq (passage : Passage machine task start run final)
    (hsited : task.Sited start.cwd) (hmode : task.mode = .normal) (hclean : task.cleanCache = false)
    {cache : Cache} (hcanonical : cache.Canonical)
    (hread : start.readText task.paths.cacheFile = .ok (cache.toText task.version)) :
    loadedCache task passage.generated = cache := by
  -- generating units leaves the cache file alone
  have hgenerated := (keeps_replaceUnits_reads hsited.extension_ne hsited.cache
    passage.wellNamed).of_yields passage.replaces ⟨rfl, hread⟩
  have hload := Cache.load_of_readText hcanonical hgenerated.2
  simp [loadedCache, hmode, hclean, hload, Except.toOption]

/-- A run leaves the cache of its outcomes in the cache file. -/
theorem readText_cacheFile (passage : Passage machine task start run final)
    (hpaths : ∃ given root, task.paths = PathsSection.resolve given root task.language) :
    final.readText task.paths.cacheFile = .ok ((cacheOf run.outcomes).toText task.version) := by
  obtain ⟨-, hread, -⟩ := reads_of_writeText passage.stores
  have hkeeps : (captureBaseline.perform { run with baseline := none }).Keeps
      (Reads passage.stored.cwd task.paths.cacheFile
        ((cacheOf run.outcomes).toText task.version)) := by
    -- the baseline is stored in another file
    refine Keeps.reads fun origin horigin => keeps_captureBaseline_agrees ?_
    obtain ⟨given, root, hpaths⟩ := hpaths
    dsimp only
    rw [passage.task_eq, horigin, hpaths]
    exact PathsSection.target_cacheFile_ne given root task.language passage.stored.cwd
  exact (hkeeps.of_yields passage.captures ⟨rfl, hread⟩).2

end Passage

end SnippetCheck
