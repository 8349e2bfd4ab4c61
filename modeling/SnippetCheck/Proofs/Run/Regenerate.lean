import SnippetCheck.Proofs.Files.Clear
import SnippetCheck.Proofs.Run.Incremental
import SnippetCheck.Proofs.Tandem

/-!
# Workspaces With Another History

Two workspaces with the same documents may differ in what earlier runs have left: the cache, the
baseline, generated sources, compiled classes, and directories that were made for all these
(`Task.AlikeButHistory`). Replacing the units removes the sources and the classes from both, so
that only the cache and the baseline may differ afterwards, and of the directories only those that
are not on the way to the units (`Task.AlikeButHistory.endAlike_replaceUnits`).
-/

namespace SnippetCheck

open Action Files Workspace Phase

namespace Task

/-- Where the cache and the baseline stand. -/
def stateAt (task : Task) (cwd : Location) : Set Location :=
  {target cwd task.paths.cacheFile, target cwd task.paths.baselineFile}

instance (task : Task) (cwd location : Location) : Decidable (location ∈ task.stateAt cwd) :=
  inferInstanceAs (Decidable (location = _ ∨ location = _))

/-- The state of a task is no source. -/
theorem extension_ne_of_mem_stateAt {task : Task} {cwd location : Location}
    (hpaths : ∃ given root, task.paths = PathsSection.resolve given root task.language)
    (h : location ∈ task.stateAt cwd) :
    extensionAt? location ≠ some task.language.extension := by
  obtain ⟨given, root, hpaths⟩ := hpaths
  have hjson : extensionAt? location = some "json" := by
    rcases h with rfl | rfl
    · rw [hpaths, PathsSection.extensionAt?_cacheFile]
    · rw [hpaths, PathsSection.extensionAt?_baselineFile]
  rw [hjson]
  cases task.language <;> decide

/-- Where the generated sources of the task's language stand. -/
def sourcesAt (task : Task) (cwd : Location) : Set Location :=
  Tree.sources cwd task.paths.generatedDir task.language.extension

/-- The generated sources of the task's language that are there. -/
def stale (task : Task) (start : Workspace) : Set Location :=
  {location | location ∈ task.sourcesAt start.cwd ∧ (start.files.fileAt? location).isSome = true}

/-- What replacing the units removes: the sources of the language, and the directory of classes with
all that stands below it. -/
def outdated (task : Task) (start : Workspace) : Set Location :=
  task.stale start ∪ {location | target start.cwd task.paths.classesDir <+: location}

/-- Of the directories that may be missing at first, those that may still be missing once units
have been generated: if there are any units, those that are not on the way to them. -/
def missing (task : Task) (cwd : Location) (made : Set Location) (units : List SourceUnit) :
    Set Location :=
  if units = [] then made else made \ {stage | stage ∈ stages cwd task.paths.generatedDir}

/-- The places of a task lie apart: sources are generated outside the directory of classes, and
neither the cache nor the baseline stands on the way to anything. Some directories (`made`) may be
missing at first; what is needed before it is made is none of them. -/
structure Apart (task : Task) (cwd : Location) (made : Set Location) : Prop where
  sited : task.Sited cwd
  outside : ¬ target cwd task.paths.classesDir <+: target cwd task.paths.generatedDir
  generated : ∀ stage ∈ stages cwd task.paths.generatedDir, stage ∉ task.stateAt cwd
  classes : ∀ stage ∈ stages cwd task.paths.classesDir, stage ∉ task.stateAt cwd
  cache : ∀ stage ∈ (stages cwd task.paths.cacheFile).dropLast,
    stage ∉ task.stateAt cwd ∧ extensionAt? stage ≠ some task.language.extension
  baseline : ∀ stage ∈ (stages cwd task.paths.baselineFile).dropLast, stage ∉ task.stateAt cwd
  base : ∀ stage ∈ stages cwd task.session.baseSource, stage ∉ task.stateAt cwd ∧
    (stage ∈ made → stage ∈ stages cwd task.paths.generatedDir ∨
      stage ∈ stages cwd task.paths.classesDir)
  root : [] ∉ made
  home : cwd ∉ made
  state : ∀ location ∈ task.stateAt cwd, location ∉ made
  sources : ∀ location ∈ made, extensionAt? location ≠ some task.language.extension

/-- The files of a workspace are in order for a task: the tree is one as file systems have them,
the directories of sources and of classes can be reached, and a file or nothing stands at the
place of the cache. -/
structure InOrder (task : Task) (workspace : Workspace) : Prop where
  proper : workspace.files.Proper
  generated : workspace.files.Reaches workspace.cwd task.paths.generatedDir
  classes : workspace.files.Reaches workspace.cwd task.paths.classesDir
  cache : workspace.files.Clear workspace.cwd task.paths.cacheFile

instance (task : Task) (workspace : Workspace) : Decidable (task.InOrder workspace) :=
  decidable_of_iff (workspace.files.Proper ∧
    workspace.files.Reaches workspace.cwd task.paths.generatedDir ∧
    workspace.files.Reaches workspace.cwd task.paths.classesDir ∧
    workspace.files.Clear workspace.cwd task.paths.cacheFile)
    ⟨fun h => ⟨h.1, h.2.1, h.2.2.1, h.2.2.2⟩,
      fun h => ⟨h.proper, h.generated, h.classes, h.cache⟩⟩

/-- Two workspaces have the same documents and the same files, but for the cache and the baseline,
the sources of the language in the directory of generated sources, what is in the directory of
classes, and some directories that may be missing. -/
structure AlikeButHistory (task : Task) (made : Set Location) (start other : Workspace) : Prop where
  cwd : other.cwd = start.cwd
  documents : task.SameDocuments start other
  inOrder : task.InOrder start
  inOrder' : task.InOrder other
  files : ∀ location, (target start.cwd task.paths.classesDir <+: location →
      location = target start.cwd task.paths.classesDir) →
    start.files.AlikeAt (task.stateAt start.cwd ∪ task.sourcesAt start.cwd)
      (made ∪ {target start.cwd task.paths.classesDir}) other.files location

variable {task : Task} {cwd : Location} {made : Set Location} {start other : Workspace}

/-- No other directories may be missing than at first. -/
theorem missing_subset (task : Task) (cwd : Location) (made : Set Location)
    (units : List SourceUnit) : task.missing cwd made units ⊆ made := by
  unfold missing
  split
  · exact fun _ hmem => hmem
  · exact fun _ hmem => hmem.1

/-! ## What lies where -/

namespace Apart

/-- No path starts at a directory that may be missing. -/
theorem start_not_mem (h : task.Apart cwd made) (path : String) : Files.start cwd path ∉ made := by
  unfold Files.start
  split
  · exact h.root
  · exact h.home

/-- The directory of classes has no extension. -/
theorem extensionAt?_classes (h : task.Apart cwd made) :
    extensionAt? (target cwd task.paths.classesDir) = none := by
  obtain ⟨given, root, hpaths⟩ := h.sited.paths
  rw [hpaths]
  exact PathsSection.extensionAt?_classesDir given root task.language cwd

end Apart

/-- The directory of classes is no generated source. -/
theorem Apart.classes_not_mem_sourcesAt (h : task.Apart cwd made) :
    target cwd task.paths.classesDir ∉ task.sourcesAt cwd := by
  intro hmem
  have hextension := Tree.extensionAt?_of_mem_sources hmem
  rw [h.extensionAt?_classes] at hextension
  cases hextension

/-- The directory of generated sources is none of them. -/
theorem generated_not_mem_sourcesAt : target cwd task.paths.generatedDir ∉ task.sourcesAt cwd := by
  rintro ⟨name, hname, -, -, -, heq⟩
  rw [target_join hname] at heq
  simpa using congrArg List.length heq

/-- What is stale is no directory. -/
theorem get?_ne_directory_of_mem_stale {location : Location} (h : location ∈ task.stale start) :
    start.files.get? location ≠ some .directory :=
  Tree.get?_ne_directory h.2

/-! ## Removing what is outdated -/

/-- Once the generated sources have been removed, the directory of classes is removed with all that
stands in it, unless a file stands there instead. -/
private theorem InOrder.exec_removeDirectory (h : task.InOrder start)
    (hapart : task.Apart start.cwd made) {between : Workspace}
    (hwithout : start.Without (task.stale start) between) :
    (start.files.fileAt? (target start.cwd task.paths.classesDir) = none →
      ∃ present final,
        (removeDirectoryIfPresent task.paths.classesDir).Yields between present final ∧
        start.Without (task.outdated start) final) ∧
    ((start.files.fileAt? (target start.cwd task.paths.classesDir)).isSome = true →
      (removeDirectoryIfPresent task.paths.classesDir).exec between =
        (.error (.notRemoved task.paths.classesDir), between)) := by
  have hkept := hwithout.kept _ fun hmem => hapart.classes_not_mem_sourcesAt hmem.1
  have hreaches : between.files.Reaches between.cwd task.paths.classesDir := by
    intro hsome
    rw [hwithout.cwd, hkept] at hsome
    rw [hwithout.cwd]
    exact Tree.locate_of_keepsDirectories
      (hwithout.keepsDirectories fun _ => get?_ne_directory_of_mem_stale) (h.classes hsome)
  rw [← hwithout.cwd] at hkept ⊢
  obtain ⟨given, root, hpaths⟩ := hapart.sited.paths
  constructor
  · intro hfile
    have hbelow : between.files.get? (target between.cwd task.paths.classesDir) = none →
        ∀ location, target between.cwd task.paths.classesDir <+: location →
          between.files.get? location = none := by
      intro hnone location hinside
      rw [hkept] at hnone
      exact hwithout.get?_eq_none (h.proper.get?_eq_none_below hnone hinside)
    obtain ⟨present, final, hremove, hwithout'⟩ := removeDirectoryIfPresent_yields hreaches
      ((Tree.fileAt?_congr hkept).trans hfile) hbelow
      (by rw [hpaths]; exact PathsSection.isSome_lastName?_classesDir given root task.language)
      (by rw [hpaths]; exact PathsSection.target_classesDir_ne given root task.language _)
    rw [hwithout.cwd] at hwithout'
    exact ⟨present, final, hremove, hwithout.trans hwithout'⟩
  · intro hsome
    obtain ⟨bytes, hfile⟩ := Option.isSome_iff_exists.1 hsome
    exact exec_removeDirectoryIfPresent_of_file
      (hreaches.node_of_fileAt? ((Tree.fileAt?_congr hkept).trans hfile))

namespace AlikeButHistory

/-- The same file stands in the place of the directory of generated sources, or none. -/
private theorem fileAt?_generated (h : task.AlikeButHistory made start other)
    (hapart : task.Apart start.cwd made) :
    other.files.fileAt? (target other.cwd task.paths.generatedDir) =
      start.files.fileAt? (target start.cwd task.paths.generatedDir) := by
  rw [h.cwd]
  refine (h.files _ fun hinside => absurd hinside hapart.outside).fileAt?_eq ?_
  rintro (hstate | hsource)
  · exact hapart.generated _ (target_mem_stages _ _) hstate
  · exact generated_not_mem_sourcesAt hsource

/-- The same file stands in the place of the directory of classes, or none. -/
private theorem fileAt?_classes (h : task.AlikeButHistory made start other)
    (hapart : task.Apart start.cwd made) :
    other.files.fileAt? (target other.cwd task.paths.classesDir) =
      start.files.fileAt? (target start.cwd task.paths.classesDir) := by
  rw [h.cwd]
  refine (h.files _ fun _ => rfl).fileAt?_eq ?_
  rintro (hstate | hsource)
  · exact hapart.classes _ (target_mem_stages _ _) hstate
  · exact hapart.classes_not_mem_sourcesAt hsource

/-- What is outdated is removed from both, or from neither. -/
private theorem endAlike_removes (h : task.AlikeButHistory made start other)
    (hapart : task.Apart start.cwd made) :
    EndAlike (fun _ _ => True)
      (fun final final' => start.Without (task.outdated start) final ∧
        other.Without (task.outdated other) final')
      (start.InStep other)
      ((removeFilesWithExtension task.paths.generatedDir task.language.extension >>= fun _ =>
        removeDirectoryIfPresent task.paths.classesDir).exec start)
      ((removeFilesWithExtension task.paths.generatedDir task.language.extension >>= fun _ =>
        removeDirectoryIfPresent task.paths.classesDir).exec other) := by
  have hapart' : task.Apart other.cwd made := h.cwd ▸ hapart
  have hgenerated := h.fileAt?_generated hapart
  have hclasses := h.fileAt?_classes hapart
  rw [exec_bind, exec_bind]
  cases hfile : start.files.fileAt? (target start.cwd task.paths.generatedDir) with
  | some bytes =>
    rw [exec_removeFilesWithExtension_of_file (h.inOrder.generated.node_of_fileAt? hfile),
      exec_removeFilesWithExtension_of_file
        (h.inOrder'.generated.node_of_fileAt? (hgenerated.trans hfile))]
    exact .error ⟨[], by simp⟩
  | none =>
    obtain ⟨count, between, hremove, hwithout⟩ := removeFilesWithExtension_yields
      h.inOrder.proper h.inOrder.generated hfile
    obtain ⟨count', between', hremove', hwithout'⟩ := removeFilesWithExtension_yields
      h.inOrder'.proper h.inOrder'.generated
      (hgenerated.trans hfile)
    obtain ⟨hyields, hfails⟩ := h.inOrder.exec_removeDirectory hapart hwithout
    obtain ⟨hyields', hfails'⟩ := h.inOrder'.exec_removeDirectory hapart' hwithout'
    rw [hremove, hremove']
    dsimp only
    cases hdir : start.files.fileAt? (target start.cwd task.paths.classesDir) with
    | some bytes =>
      rw [hfails (by rw [hdir]; rfl), hfails' (by rw [hclasses, hdir]; rfl)]
      exact .error ⟨[], by simp [hwithout.launches], by simp [hwithout'.launches]⟩
    | none =>
      obtain ⟨present, final, hyields, hfinal⟩ := hyields hdir
      obtain ⟨present', final', hyields', hfinal'⟩ := hyields' (hclasses.trans hdir)
      rw [hyields, hyields']
      exact .ok trivial ⟨hfinal, hfinal'⟩

end AlikeButHistory

variable {final final' : Workspace} {location : Location}

/-- What is no source and not in the directory of classes is kept. -/
private theorem get?_of_not_mem_sourcesAt (hfinal : start.Without (task.outdated start) final)
    (hbelow : ¬ target start.cwd task.paths.classesDir <+: location)
    (hsource : location ∉ task.sourcesAt start.cwd) :
    final.files.get? location = start.files.get? location :=
  hfinal.kept location (by rintro (hstale | hinside); exacts [hsource hstale.1, hbelow hinside])

/-- Where a source may stand, nothing but a directory is kept. -/
private theorem get?_of_mem_sourcesAt (hfinal : start.Without (task.outdated start) final)
    (hbelow : ¬ target start.cwd task.paths.classesDir <+: location)
    (hsource : location ∈ task.sourcesAt start.cwd) :
    final.files.get? location =
      if start.files.get? location = some .directory then some .directory else none := by
  by_cases hstale : location ∈ task.stale start
  · rw [hfinal.gone location (.inl hstale), if_neg (get?_ne_directory_of_mem_stale hstale)]
  · rw [hfinal.kept location (by rintro (hmem | hinside); exacts [hstale hmem, hbelow hinside])]
    cases hget : start.files.get? location with
    | none => rfl
    | some node =>
      cases node with
      | file bytes => exact absurd ⟨hsource, by rw [Tree.fileAt?_eq_some.2 hget]; rfl⟩ hstale
      | directory => rfl

namespace AlikeButHistory

/-- Once what is outdated has been removed from both, they are alike but for the cache, the
baseline and the directories that may be missing. -/
private theorem alike_of_without (h : task.AlikeButHistory made start other)
    (hapart : task.Apart start.cwd made) (hfinal : start.Without (task.outdated start) final)
    (hfinal' : other.Without (task.outdated other) final') :
    start.Alike other (task.stateAt start.cwd) made final final' where
  cwd := hfinal.cwd
  cwd' := hfinal'.cwd.trans h.cwd
  inStep := ⟨[], by simp [hfinal.launches], by simp [hfinal'.launches]⟩
  files location := by
    have hcwd := h.cwd
    by_cases hbelow : target start.cwd task.paths.classesDir <+: location
    · refine .of_eq ?_
      rw [hfinal.gone location (.inr hbelow), hfinal'.gone location (.inr ?_)]
      rwa [← hcwd] at hbelow
    have hbelow' : ¬ target other.cwd task.paths.classesDir <+: location := by rwa [hcwd]
    have halike := h.files location fun hinside => absurd hinside hbelow
    by_cases hsource : location ∈ task.sourcesAt start.cwd
    · refine .of_eq ?_
      rw [get?_of_mem_sourcesAt hfinal hbelow hsource,
        get?_of_mem_sourcesAt hfinal' hbelow' (by rwa [hcwd])]
      rcases halike with heq | ⟨-, hnone, hnone'⟩ | ⟨hdir, -⟩
      · rw [heq]
      · rw [if_neg hnone, if_neg hnone']
      · -- no directory that may be missing has the extension of a source
        have hextension := Tree.extensionAt?_of_mem_sources hsource
        rcases hdir with hmade | rfl
        · exact absurd hextension (hapart.sources _ hmade)
        · exact absurd hsource hapart.classes_not_mem_sourcesAt
    · have hsource' : location ∉ task.sourcesAt other.cwd := by rwa [hcwd]
      refine (halike.mono (fun hmem => hmem.resolve_right hsource) fun hmem => ?_).congr
        (get?_of_not_mem_sourcesAt hfinal hbelow hsource)
        (get?_of_not_mem_sourcesAt hfinal' hbelow' hsource')
      refine hmem.resolve_right ?_
      rintro rfl
      exact hbelow List.prefix_rfl

end AlikeButHistory

/-- The path of the cache stays clear when what is outdated is removed. -/
private theorem clear_of_without (hapart : task.Apart start.cwd made) (h : task.InOrder start)
    (hfinal : start.Without (task.outdated start) final) :
    final.files.Clear start.cwd task.paths.cacheFile := by
  refine h.cache.of_without hfinal fun stage hstage hmem => ?_
  rcases hmem with hstale | hinside
  · exact get?_ne_directory_of_mem_stale hstale
  · exact absurd hinside (hapart.sited.cache stage (List.dropLast_subset _ hstage))

end Task

/-! ## Writing the units -/

namespace Phase

variable {language : Language} {dir : String} {units : List SourceUnit} {origin origin' : Workspace}
  {files dirs : Set Location}

/-- Writing units goes in tandem. If there are any, their directory is there afterwards, and so are
those above it. -/
theorem tandem_writeUnits
    (hnamed : ∀ sourceUnit ∈ units, SourceUnit.WellNamed language sourceUnit)
    (hstart : Files.start origin.cwd dir ∉ dirs)
    (hway : ∀ stage ∈ stages origin.cwd dir, stage ∉ files)
    (hsources : ∀ location ∈ dirs, extensionAt? location ≠ some language.extension) :
    (writeUnits dir units).Tandem (origin.Alike origin' files dirs) Eq
      (origin.Alike origin' files
        (if units = [] then dirs else dirs \ {stage | stage ∈ stages origin.cwd dir}))
      (origin.InStep origin') := by
  induction units generalizing dirs with
  | nil => exact .pure _
  | cons sourceUnit units ih =>
    have hunit := hnamed sourceUnit List.mem_cons_self
    rw [if_neg (List.cons_ne_nil _ _)]
    refine (tandem_writeText hunit.isName sourceUnit.source hstart hway fun hmem => ?_).bind
      fun _ => ?_
    · exact hsources _ hmem (hunit.extensionAt?_target_pathIn _ _)
    · refine (ih (fun other hother => hnamed other (List.mem_cons_of_mem sourceUnit hother))
        (fun hmem => hstart hmem.1) fun location hmem => hsources location hmem.1).imp
        (fun _ _ h => h.mono (fun _ hmem => hmem.1) fun _ hmem => hmem) fun _ _ h => h.mono
          (fun _ hmem => hmem) fun location hmem => ?_
      split at hmem
      · exact hmem
      · exact hmem.1

/-- A path stays clear when units are written, if it ends at no directory on the way to them and
leads through no place with the extension of the language. -/
private theorem keeps_writeUnits_clear {cwd : Location} {path : String}
    (hnamed : ∀ sourceUnit ∈ units, SourceUnit.WellNamed language sourceUnit)
    (hplace : target cwd path ∉ stages cwd dir)
    (hway : ∀ stage ∈ stages cwd path, extensionAt? stage ≠ some language.extension) :
    (writeUnits dir units).Keeps fun workspace =>
      workspace.cwd = cwd ∧ workspace.files.Clear cwd path := by
  refine .writeUnits fun sourceUnit hunit =>
    keeps_writeText_clear (hnamed sourceUnit hunit).isName _ hplace fun hmem => ?_
  exact hway _ hmem ((hnamed sourceUnit hunit).extensionAt?_target_pathIn _ _)

end Phase

namespace Task

variable {task : Task} {made : Set Location} {start other : Workspace}

/-- No place on the way to the cache has the extension of the language, and neither has the cache.
-/
private theorem Apart.extension_ne (h : task.Apart start.cwd made) :
    ∀ stage ∈ stages start.cwd task.paths.cacheFile,
      extensionAt? stage ≠ some task.language.extension := by
  intro stage hstage
  have hcache := h.cache stage
  have hlast := h.sited.extension_ne
  obtain ⟨given, root, hpaths⟩ := h.sited.paths
  obtain ⟨dir, name, hname, hfile⟩ := PathsSection.exists_cacheFile_eq given root task.language
  rw [hpaths, hfile] at hstage hcache hlast
  rw [mem_dropLast_stages_join hname] at hcache
  rcases (mem_stages_join hname dir).1 hstage with hdir | hend
  · exact (hcache hdir).2
  · rw [hend]
    exact hlast

/-- Replacing the units goes in tandem from two workspaces with the same documents. Afterwards,
only the cache and the baseline may differ, the path of the cache is clear, and no directory on
the way to the units may be missing if there are any. -/
theorem AlikeButHistory.endAlike_replaceUnits (h : task.AlikeButHistory made start other)
    (hapart : task.Apart start.cwd made) {units : List SourceUnit}
    (hnamed : ∀ sourceUnit ∈ units, SourceUnit.WellNamed task.language sourceUnit) :
    EndAlike Eq
      (fun final final' => start.Alike other (task.stateAt start.cwd)
          (task.missing start.cwd made units) final final' ∧
        final.files.Clear start.cwd task.paths.cacheFile ∧
        final'.files.Clear start.cwd task.paths.cacheFile)
      (start.InStep other)
      ((replaceUnits task.paths task.language units).exec start)
      ((replaceUnits task.paths task.language units).exec other) := by
  have hsplit : replaceUnits task.paths task.language units =
      (removeFilesWithExtension task.paths.generatedDir task.language.extension >>= fun _ =>
        removeDirectoryIfPresent task.paths.classesDir) >>= fun _ =>
        writeUnits task.paths.generatedDir units := by
    rw [bind_assoc]
    rfl
  rw [hsplit]
  refine (h.endAlike_removes hapart).bind fun _ _ middle middle' _ ⟨hmiddle, hmiddle'⟩ => ?_
  have hkeeps := keeps_writeUnits_clear hnamed
    (fun hmem => hapart.generated _ hmem (.inl rfl)) hapart.extension_ne
  have hclear := clear_of_without hapart h.inOrder hmiddle
  have hclear' := clear_of_without (h.cwd ▸ hapart) h.inOrder' hmiddle'
  rw [h.cwd] at hclear'
  refine ((tandem_writeUnits hnamed (hapart.start_not_mem _) hapart.generated hapart.sources _ _
    (h.alike_of_without hapart hmiddle hmiddle')).and_keeps hkeeps hkeeps ⟨hmiddle.cwd, hclear⟩
    ⟨hmiddle'.cwd.trans h.cwd, hclear'⟩).imp (fun _ _ h => h) (fun _ _ h => ?_) fun _ _ h => h
  exact ⟨h.1, h.2.1.2, h.2.2.2⟩

end Task

end SnippetCheck
