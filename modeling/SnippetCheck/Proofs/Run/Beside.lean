import SnippetCheck.Proofs.Places
import SnippetCheck.Proofs.Run.Tandem
import SnippetCheck.Proofs.Run.Within

/-!
# Runs Beside Others

A run does not show what somebody else has done within a territory that is clear of the task
(`Task.ClearOf`): from workspaces that stand beside each other it ends with the same result, and
leaves such workspaces (`Task.ClearOf.endAlike_run`). The same documents are found in both
(`Extraction.SparedBy.sameDocuments`), and each phase after that goes beside the territory.
-/

namespace SnippetCheck

open Action Files Workspace Phase

/-! ## Documents -/

namespace Extraction

/-- Where documents may stand: where one of the roots leads to, or below, with one of the
extensions. -/
def places (extraction : Extraction) (cwd : Location) : Set Location :=
  {location |
    (∃ root ∈ extraction.roots, target cwd (Path.join extraction.base root) <+: location) ∧
    ∃ extension ∈ extraction.extensions, extensionAt? location = some extension}

instance (extraction : Extraction) (cwd location : Location) :
    Decidable (location ∈ extraction.places cwd) :=
  inferInstanceAs (Decidable
    ((∃ root ∈ extraction.roots, _) ∧ ∃ extension ∈ extraction.extensions, _))

/-- A territory spares the documents of an extraction: it spares the paths of the roots, and puts no
file where documents may stand. -/
structure SparedBy (extraction : Extraction) (cwd : Location) (territory : Territory) : Prop where
  roots : ∀ root ∈ extraction.roots, territory.Spares cwd (Path.join extraction.base root) ∧
    target cwd (Path.join extraction.base root) ∉ territory.ways
  places : extraction.places cwd ⊆ territory.barred

/-- No files stand at and below a path that leads nowhere. -/
private theorem filesUnder_of_error {workspace : Workspace} {path : String} {refusal : Refusal}
    (h : workspace.files.node workspace.cwd path = .error refusal) :
    filesUnder workspace path = [] := by
  unfold filesUnder
  unfold Files.Tree.node at h
  cases hlocate : workspace.files.locate workspace.cwd path with
  | error => rfl
  | ok location =>
    rw [hlocate] at h
    simp only [bind, Except.bind] at h ⊢
    cases hget : workspace.files.get? location with
    | none => rfl
    | some node =>
      rw [hget] at h
      cases h

/-- A file is the only one at and below its path. -/
private theorem filesUnder_of_file {workspace : Workspace} {path : String} {bytes : ByteArray}
    (h : workspace.files.node workspace.cwd path = .ok (.file bytes)) :
    filesUnder workspace path = [path] := by
  obtain ⟨hlocate, hget⟩ := Tree.node_eq_ok.1 h
  unfold filesUnder
  simp only [hlocate, hget]

/-- The files at and below a path that leads to a directory are those that stand below it. -/
private theorem filesUnder_of_directory {workspace : Workspace} {path : String}
    (h : workspace.files.node workspace.cwd path = .ok .directory) :
    filesUnder workspace path =
      (workspace.files.filesBelow (target workspace.cwd path)).map fun names =>
        names.foldl Path.join path := by
  obtain ⟨hlocate, hget⟩ := Tree.node_eq_ok.1 h
  unfold filesUnder
  simp only [hlocate, hget]

variable {extraction : Extraction} {cwd : Location} {territory : Territory}
  {workspace other : Workspace}

namespace SparedBy

variable (h : extraction.SparedBy cwd territory) (hbeside : workspace.Beside cwd territory other)
  (hfree : ∀ location ∈ territory.own, location ∈ territory.barred →
    workspace.files.fileAt? location = none)
include h hbeside hfree

/-- Where documents may stand, the same files do. -/
private theorem fileAt?_eq {location : Location} (hplace : location ∈ extraction.places cwd) :
    other.files.fileAt? location = workspace.files.fileAt? location := by
  by_cases hown : location ∈ territory.own
  · have hnone := hfree location hown (h.places hplace)
    rw [hnone, hbeside.allows.fileAt?_eq_none (h.places hplace) hnone]
  · exact hbeside.allows.fileAt?_eq hown

/-- The same documents are found at and below a root. -/
private theorem filter_filesUnder_eq {root : String} (hroot : root ∈ extraction.roots) :
    (filesUnder other (Path.join extraction.base root)).filter extraction.isDocument =
      (filesUnder workspace (Path.join extraction.base root)).filter extraction.isDocument := by
  obtain ⟨hspares, htarget⟩ := h.roots root hroot
  have hfirst := hbeside.first
  have hsecond := hbeside.second
  have hnode := hspares.node_eq hbeside.allows hfirst.proper htarget
  have hother {node : Except Refusal Node}
      (hfound : workspace.files.node cwd (Path.join extraction.base root) = node) :
      workspace.files.node workspace.cwd (Path.join extraction.base root) = node ∧
        other.files.node other.cwd (Path.join extraction.base root) = node := by
    rw [hfirst.cwd, hsecond.cwd, hnode]
    exact ⟨hfound, hfound⟩
  cases hfound : workspace.files.node cwd (Path.join extraction.base root) with
  | error refusal =>
    rw [filesUnder_of_error (hother hfound).1, filesUnder_of_error (hother hfound).2]
  | ok node =>
    cases node with
    | file bytes =>
      rw [filesUnder_of_file (hother hfound).1, filesUnder_of_file (hother hfound).2]
    | directory =>
      rw [filesUnder_of_directory (hother hfound).1, filesUnder_of_directory (hother hfound).2,
        hfirst.cwd, hsecond.cwd, List.filter_map, List.filter_map]
      congr 1
      refine Tree.filter_filesBelow_eq hfirst.proper hsecond.proper fun names hcondition => ?_
      obtain ⟨extension, hextension, hpath⟩ := isDocument_iff.1 hcondition
      -- a file with this path stands where documents may stand
      have hplace {tree : Tree} (hproper : tree.Proper)
          (hroot' : tree.node cwd (Path.join extraction.base root) = .ok .directory)
          (hfile : (tree.fileAt? (target cwd (Path.join extraction.base root) ++ names)).isSome =
            true) :
          target cwd (Path.join extraction.base root) ++ names ∈ extraction.places cwd := by
        refine ⟨⟨root, hroot, List.prefix_append _ _⟩, extension, hextension, ?_⟩
        rw [← Tree.extension?_foldl_join hproper (Tree.node_eq_ok.1 hroot').1 hfile, hpath]
      constructor
      · intro hfile
        rwa [h.fileAt?_eq hbeside hfree (hplace hsecond.proper (hnode.trans hfound) hfile)] at hfile
      · intro hfile
        rwa [h.fileAt?_eq hbeside hfree (hplace hfirst.proper hfound hfile)]

/-- The same documents are found. -/
private theorem found_eq : extraction.found other = extraction.found workspace := by
  rw [found, found, List.flatMap_def, List.flatMap_def]
  exact congrArg List.flatten (List.map_congr_left fun root hroot =>
    h.filter_filesUnder_eq hbeside hfree hroot)

/-- A document that is found is read alike. -/
private theorem readText_eq {path : String} (hpath : path ∈ extraction.found workspace) :
    other.readText path = workspace.readText path := by
  obtain ⟨hcwd, hproper⟩ := hbeside.first
  obtain ⟨root, hroot, hmem⟩ := List.mem_flatMap.1 hpath
  obtain ⟨hmem, hdocument⟩ := List.mem_filter.1 hmem
  obtain ⟨top, names, hlocate, hfile, rfl⟩ := (mem_filesUnder_iff hproper).1 hmem
  obtain ⟨extension, hextension, hpath⟩ := isDocument_iff.1 hdocument
  obtain rfl := Tree.target_eq_of_locate hlocate
  rw [Tree.extension?_foldl_join hproper hlocate hfile] at hpath
  rw [hcwd] at hlocate hfile hpath
  -- the document is in both trees
  have hsame := h.fileAt?_eq hbeside hfree
    ⟨⟨root, hroot, List.prefix_append _ names⟩, extension, hextension, hpath⟩
  have hfile' := hfile
  rw [← hsame] at hfile'
  -- and so are the directories on the way to it
  have hbelow (before : List String) (hbefore : before <+: names) :
      other.files.get? (target cwd (Path.join extraction.base root) ++ before) =
        workspace.files.get? (target cwd (Path.join extraction.base root) ++ before) := by
    obtain ⟨rest, rfl⟩ := hbefore
    rcases eq_or_ne rest [] with rfl | hne
    · rw [List.append_nil] at hsame hfile
      obtain ⟨bytes, hbytes⟩ := Option.isSome_iff_exists.1 hfile
      rw [Tree.fileAt?_eq_some.1 hbytes, Tree.fileAt?_eq_some.1 (hsame.trans hbytes)]
    · rw [← List.append_assoc] at hfile hfile'
      rw [hproper.get?_above (Tree.isSome_get?_of_fileAt? hfile) hne,
        hbeside.second.proper.get?_above (Tree.isSome_get?_of_fileAt? hfile') hne]
  have hnames : ∀ name ∈ names, IsName name := fun name hname =>
    hproper.isName_of_isSome (Tree.isSome_get?_of_fileAt? hfile) (List.mem_append_right _ hname)
  rw [Workspace.readText, Workspace.readText, hcwd, hbeside.second.cwd]
  refine Tree.readText_congr fun stage hstage => ?_
  rcases mem_stages_foldl_join hnames hstage with hroot' | ⟨before, hbefore, hend⟩
  · rcases mem_stages_iff_dropLast.1 hroot' with hdrop | hend
    · have hdirectory := Tree.get?_of_locate hlocate stage hdrop
      have hown := (h.roots root hroot).1.own stage hroot'
      rw [hdirectory, hbeside.allows.get?_eq_some hown hdirectory]
    · rw [hend]
      simpa using hbelow [] List.nil_prefix
  · rw [hend]
    exact hbelow before hbefore

end SparedBy

end Extraction

/-- The same documents are found beside others, if the territory spares them. -/
theorem Extraction.SparedBy.sameDocuments {task : Task} {cwd : Location} {territory : Territory}
    {workspace other : Workspace} (h : task.extraction.SparedBy cwd territory)
    (hbeside : workspace.Beside cwd territory other)
    (hfree : ∀ location ∈ territory.own, location ∈ territory.barred →
      workspace.files.fileAt? location = none) : task.SameDocuments workspace other where
  roots := by
    unfold missingRoots
    refine List.filter_congr fun docs hdocs => ?_
    obtain ⟨hspares, htarget⟩ := h.roots docs hdocs
    have hnode := hspares.node_eq hbeside.allows hbeside.first.proper htarget
    have hdirectory : other.isDirectory (Path.join task.extraction.base docs) =
        workspace.isDirectory (Path.join task.extraction.base docs) := by
      rw [Bool.eq_iff_iff, Workspace.isDirectory, Workspace.isDirectory, hbeside.first.cwd,
        hbeside.second.cwd, Tree.isDirectory_iff, Tree.isDirectory_iff, hnode]
    exact congrArg not hdirectory
  documents := congrArg task.extraction.documentsAt (h.found_eq hbeside hfree)
  texts document hmem := by
    obtain ⟨path, hpath, rfl⟩ := List.mem_map.1 (Ordered.mem_of_mem_ofList hmem)
    exact h.readText_eq hbeside hfree hpath

/-! ## Tasks that a territory is clear of -/

/-- A territory is clear of a task: it spares the places of the task and its documents, what the
task leaves is neither in the territory nor on its ways, and it is clear of the session. -/
structure Task.ClearOf (task : Task) (machine : Machine) (cwd : Location) (territory : Territory)
    (scratch products : Set Location) : Prop where
  paths : ∃ given root, task.paths = PathsSection.resolve given root task.language
  generated : territory.Spares cwd task.paths.generatedDir
  cache : territory.Spares cwd task.paths.cacheFile
  baseline : territory.Spares cwd task.paths.baselineFile
  outputs : ∀ location ∈ task.paths.outputs task.language cwd,
    location ∉ territory.own ∧ location ∉ territory.ways
  documents : task.extraction.SparedBy cwd territory
  session : task.session.ClearOf machine task.version cwd territory scratch products

namespace Phase

/-- Units that have been written have names that are not too long. -/
private theorem utf8ByteSize_le_of_writeUnits {language : Language} {dir : String}
    {units : List SourceUnit} {start final : Workspace} {value : Unit}
    (hnamed : ∀ sourceUnit ∈ units, sourceUnit.WellNamed language)
    (h : (writeUnits dir units).Yields start value final) :
    ∀ sourceUnit ∈ units, sourceUnit.fileName.utf8ByteSize ≤ 255 := by
  induction units generalizing start with
  | nil => simp
  | cons sourceUnit units ih =>
    obtain ⟨hunit, hlater⟩ := List.forall_mem_cons.1 hnamed
    obtain ⟨_, between, hfirst, hrest⟩ := yields_bind.1 h
    refine List.forall_mem_cons.2 ⟨?_, ih hlater hrest⟩
    obtain ⟨_, _, -, hreplace⟩ := yields_bind.1 hfirst
    obtain ⟨files, hwrite, -⟩ := yields_replaceFiles.1 hreplace
    exact Tree.utf8ByteSize_le_of_locate_join hunit.isName (Tree.write_eq_ok hwrite).1

/-- The units that have been generated have names, and these are not too long. -/
private theorem named_of_generate_perform_yields {run next : Run} {start final : Workspace}
    (h : (generate.perform run).Yields start next final) :
    ∀ sourceUnit ∈ next.units,
      sourceUnit.WellNamed run.task.language ∧ sourceUnit.fileName.utf8ByteSize ≤ 255 := by
  obtain ⟨hnext, hreplace⟩ := generate_perform_yields h
  have hunits : ∀ sourceUnit ∈ next.units, sourceUnit.WellNamed run.task.language := by
    rw [hnext]
    exact fun _ => SourceUnit.wellNamed_of_mem_ofSnippets
  obtain ⟨_, _, -, hremove⟩ := yields_bind.1 hreplace
  obtain ⟨_, _, -, hwrite⟩ := yields_bind.1 hremove
  exact fun sourceUnit hmem =>
    ⟨hunits sourceUnit hmem, utf8ByteSize_le_of_writeUnits hunits hwrite sourceUnit hmem⟩

end Phase

namespace Task.ClearOf

variable {task : Task} {machine : Machine} {cwd : Location} {territory : Territory}
  {scratch products barred : Set Location}
  (h : task.ClearOf machine cwd territory scratch products)
include h

/-- A file is written beside others to one of the places of the task. -/
private theorem beside_writeText {path : String}
    (hpath : ∃ dir name, IsName name ∧ path = Path.join dir name)
    (hown : ∀ stage ∈ (stages cwd path).dropLast, stage ∉ territory.own)
    (hwritten : target cwd path ∈ task.paths.written task.language cwd) (content : String) :
    (writeText path content).GoesBeside cwd territory := by
  obtain ⟨dir, name, hname, rfl⟩ := hpath
  obtain ⟨htarget, hways⟩ := h.outputs _ (.inl hwritten)
  refine Action.beside_writeText hname content (h.session.start dir) (fun stage hstage => ?_)
    htarget hways
  exact hown stage ((mem_dropLast_stages_join hname dir).2 hstage)

/-- The units are replaced beside others. -/
private theorem beside_replaceUnits {units : List SourceUnit}
    (hnamed : ∀ sourceUnit ∈ units, sourceUnit.WellNamed task.language) :
    (replaceUnits task.paths task.language units).GoesBeside cwd territory := by
  have hclasses := h.session.classes
  obtain ⟨given, root, hpaths⟩ := h.paths
  refine (beside_removeFilesWithExtension h.generated fun location hmem =>
    (h.outputs location (.inl (LanguagePaths.mem_written_of_mem_sources hmem))).1).bind_const ?_
  refine Tandem.bind_const (beside_removeDirectoryIfPresent hclasses.toSpares
    (hclasses.ways_below _ List.prefix_rfl) ?_ ?_) ?_
  · rw [hpaths]
    exact PathsSection.isSome_lastName?_classesDir given root task.language
  · rw [hpaths]
    exact PathsSection.target_classesDir_ne given root task.language cwd
  · induction units with
    | nil => exact .pure ()
    | cons sourceUnit units ih =>
      obtain ⟨hunit, hlater⟩ := List.forall_mem_cons.1 hnamed
      refine (h.beside_writeText ⟨_, _, hunit.isName, rfl⟩ (fun stage hstage => ?_)
        (LanguagePaths.target_pathIn_mem_written hunit) _).bind fun _ => ih hlater
      exact h.generated.own stage ((mem_dropLast_stages_join hunit.isName _).1 hstage)

/-- The phase that generates the units goes beside the territory. -/
private theorem beside_generate {run : Run} (hrun : run.task = task) :
    (generate.perform run).GoesBeside cwd territory := by
  subst hrun
  exact ((h.beside_replaceUnits fun _ => SourceUnit.wellNamed_of_mem_ofSnippets).describing
    RunError.files).bind fun _ => .pure _

/-- The phase that leaves out accepted failures goes beside the territory. -/
private theorem beside_filterBaseline {run : Run} (hrun : run.task = task) :
    (filterBaseline.perform run).GoesBeside cwd territory := by
  subst hrun
  unfold filterBaseline
  dsimp only
  split
  · exact .pure _
  · intro workspace other hbeside
    have hload : Baseline.load other run.task.paths.baselineFile =
        Baseline.load workspace run.task.paths.baselineFile := by
      rw [Baseline.load, Baseline.load, loadDocument, loadDocument,
        hbeside.readText_eq h.baseline (h.outputs _ (.inl (.inr (.inr rfl)))).2]
    rw [exec_get_bind, exec_get_bind, hload]
    exact .ok rfl hbeside

/-- The cache is forgotten beside others. -/
private theorem beside_forgetCache : (forgetCache task).GoesBeside cwd territory := by
  unfold forgetCache
  split
  · exact (beside_removeFileIfPresent h.cache).bind fun _ => .pure ()
  · exact .pure ()

/-- The cache is stored beside others. -/
private theorem beside_saveCache (cache : Cache) :
    (cache.save task.paths.cacheFile task.version).GoesBeside cwd territory := by
  refine h.beside_writeText ?_ (fun stage hstage => ?_) (.inr (.inl rfl)) _
  · obtain ⟨given, root, hpaths⟩ := h.paths
    rw [hpaths]
    exact PathsSection.exists_cacheFile_eq given root task.language
  · exact h.cache.own stage ((List.dropLast_subset _) hstage)

/-- The phase that compiles goes beside the territory, if the names of units are not too long. -/
private theorem beside_compile (hproper : machine.KeepsProper)
    (hdisciplined : task.session.Disciplined machine cwd barred) {run : Run}
    (hrun : run.task = task)
    (hnamed : ∀ sourceUnit ∈ run.units,
      sourceUnit.WellNamed task.language ∧ sourceUnit.fileName.utf8ByteSize ≤ 255) :
    ((compile machine).perform run).GoesBeside cwd territory := by
  subst hrun
  refine (h.beside_forgetCache.describing RunError.files).bind fun _ => ?_
  intro workspace other hbeside
  have hload : Cache.load other run.task.paths.cacheFile run.task.version =
      Cache.load workspace run.task.paths.cacheFile run.task.version := by
    rw [Cache.load, Cache.load, loadDocument, loadDocument,
      hbeside.readText_eq h.cache (h.outputs _ (.inl (.inr (.inl rfl)))).2]
  rw [exec_get_bind, exec_get_bind, hload]
  dsimp only
  rw [orWarn_eq]
  refine Tandem.bind (Tandem.describing RunError.compile (Compiler.Session.beside_compile h.session
    hdisciplined hproper fun sourceUnit hmem => ?_)) (fun fresh => ?_) workspace other hbeside
  · obtain ⟨hunit, hshort⟩ := hnamed sourceUnit ((pending_sublist _ _).subset hmem)
    have houtput := h.outputs _ (.inl (LanguagePaths.target_pathIn_mem_written hunit))
    exact ⟨h.generated.join hunit.isName hshort houtput.1, houtput.2⟩
  · exact ((h.beside_saveCache _).describing RunError.files).bind fun _ => .pure _

/-- The phase that captures failures goes beside the territory. -/
private theorem beside_captureBaseline {run : Run} (hrun : run.task = task) :
    (captureBaseline.perform run).GoesBeside cwd territory := by
  subst hrun
  have hstore : (storeBaseline run.task.paths.baselineFile (captured run)).GoesBeside cwd
      territory := by
    unfold storeBaseline
    split
    · exact ((beside_removeFileIfPresent h.baseline).describing RunError.files).bind
        fun _ => .pure _
    · refine ((h.beside_writeText ?_ (fun stage hstage => ?_) (.inr (.inr rfl)) _).describing
        _).bind fun _ => .pure _
      · obtain ⟨given, root, hpaths⟩ := h.paths
        rw [hpaths]
        exact PathsSection.exists_baselineFile_eq given root run.task.language
      · exact h.baseline.own stage ((List.dropLast_subset _) hstage)
  cases hmode : run.task.mode with
  | normal =>
    rw [captureBaseline_perform_of_normal hmode]
    exact .pure _
  | capture =>
    rw [captureBaseline_perform_of_capture hmode]
    exact hstore.bind fun _ => .pure _

/-- From workspaces that stand beside each other a run ends with the same result, and leaves such
workspaces, if no document stands in a place of the territory. -/
theorem endAlike_run (hproper : machine.KeepsProper)
    (hdisciplined : task.session.Disciplined machine cwd barred) {start other : Workspace}
    (hbeside : start.Beside cwd territory other)
    (hfree : ∀ location ∈ territory.own, location ∈ territory.barred →
      start.files.fileAt? location = none) :
    EndAlike Eq (Beside cwd territory) (Beside cwd territory)
      ((({} : Pipeline).run machine task).exec start)
      ((({} : Pipeline).run machine task).exec other) := by
  rw [Pipeline.exec_run, Pipeline.exec_run, Pipeline.course, Pipeline.schedule_default]
  refine Pipeline.endAlike_ended_cons
    (endAlike_extract (h.documents.sameDocuments hbeside hfree) hbeside) ?_
  rintro extracted _ _ _ hextract rfl ⟨rfl, rfl⟩
  have hextracted : extracted.task = task := task_eq_of_yields (by simp) hextract
  refine Pipeline.endAlike_ended_cons (h.beside_filterBaseline hextracted start other hbeside) ?_
  rintro filtered _ first first' hfilter rfl hfirst
  have hfiltered := (task_eq_of_yields (by simp) hfilter).trans hextracted
  refine Pipeline.endAlike_ended_cons (h.beside_generate hfiltered first first' hfirst) ?_
  rintro generated _ second second' hgenerate rfl hsecond
  have hgenerated := (task_eq_of_yields (by simp) hgenerate).trans hfiltered
  have hnamed := named_of_generate_perform_yields hgenerate
  rw [hfiltered] at hnamed
  refine Pipeline.endAlike_ended_cons
    (h.beside_compile hproper hdisciplined hgenerated hnamed second second' hsecond) ?_
  rintro compiled _ third third' hcompile rfl hthird
  have hphase : compile machine ∈ Phase.all machine := by simp [Phase.all]
  have hcompiled := (task_eq_of_yields_of_mem_all hphase hcompile).trans hgenerated
  refine Pipeline.endAlike_ended_cons (h.beside_captureBaseline hcompiled third third' hthird) ?_
  rintro final _ last last' - rfl hlast
  exact .ok rfl hlast

end Task.ClearOf

end SnippetCheck
