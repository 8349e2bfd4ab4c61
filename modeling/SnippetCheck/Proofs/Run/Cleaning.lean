import SnippetCheck.Proofs.Files.Reaching
import SnippetCheck.Proofs.Run.Footprint

/-!
# Cleaning Up After Validations

A cleaning that succeeds has removed the footprint of its language and nothing else, and tells how
many sources and what else it has removed, if the paths reach what is there
(`Cleaning.removes_of_yields`). After that, another cleaning removes nothing
(`Cleaning.Removes.again`).

Validations leave what can be reached: every step of a task keeps a path reaching its file
(`Task.stepsKeep_reachesIf`), also the steps that write files and make directories. So a cleaning
after any validations of a language leaves every file as it was before them, but for the baseline
(`Site.undone_of_yields`). What is needed for this is a structure of its own (`Site.Cleanable`),
since it is not enough that the places lie outside the directory of classes
(`Site.left_after_cleaning`).
-/

namespace SnippetCheck

open Action Files Workspace

/-! ## What a cleaning removes -/

/-- The paths of a language reach what its runs leave: its sources, its classes and its cache. -/
structure LanguagePaths.ReachAll (paths : LanguagePaths) (language : Language) (cwd : Location)
    (tree : Tree) : Prop where
  sources : tree.ReachesFilesIn cwd paths.generatedDir language.extension
  classes : tree.Reaches cwd paths.classesDir
  cache : tree.ReachesFile cwd paths.cacheFile

/-- No source is among the classes, if the directory of sources is not. -/
theorem LanguagePaths.not_isPrefix_of_mem_sites {given : PathsSection} {root extension : String}
    {language : Language} {cwd dir location : Location}
    (houtside : ¬ target cwd (given.resolve root language).classesDir <+: dir)
    (hsite : location ∈ sites dir extension) :
    ¬ target cwd (given.resolve root language).classesDir <+: location := by
  intro hinside
  obtain ⟨name, rfl⟩ := exists_eq_append_of_mem_sites hsite
  rcases List.prefix_concat_iff.1 hinside with heq | habove
  · -- the directory of classes has no extension
    have hextension := hsite.2
    rw [← heq, PathsSection.extensionAt?_classesDir] at hextension
    cases hextension
  · exact houtside habove

namespace Cleaning

/-- What a cleaning has removed, and what it tells of that. -/
structure Removes (cleaning : Cleaning) (paths : LanguagePaths) (language : Language)
    (start final : Workspace) : Prop where
  /-- It is about the language. -/
  about : cleaning.language = language
  /-- It counts the sources that were there. -/
  sources : ∃ locations : List Location, locations.length = cleaning.sources ∧ locations.Nodup ∧
    ∀ location, location ∈ locations ↔
      location ∈ sites (target start.cwd paths.generatedDir) language.extension ∧
        (start.files.fileAt? location).isSome = true
  /-- It lists the directory of classes and the cache, each if it was there. -/
  removed : cleaning.removed =
    (if (start.files.get? (target start.cwd paths.classesDir)).isSome then [paths.classesDir]
      else []) ++
    if (start.files.fileAt? (target start.cwd paths.cacheFile)).isSome then [paths.cacheFile]
      else []
  /-- No file of the footprint is left. -/
  gone : ∀ location ∈ paths.footprint language start.cwd, final.files.fileAt? location = none
  /-- No directory of classes is left. -/
  classes : final.files.get? (target start.cwd paths.classesDir) = none
  /-- All other files are as they were. -/
  kept : ∀ location ∉ paths.footprint language start.cwd,
    final.files.fileAt? location = start.files.fileAt? location
  /-- Nothing has been put anywhere. -/
  rest : ∀ location, final.files.get? location = start.files.get? location ∨
    final.files.get? location = none

variable {paths : LanguagePaths} {manifest : Manifest} {root : String} {language : Language}
  {start between emptied final : Workspace} {cleaning : Cleaning}

/-- A cleaning that succeeds removes three things, and tells of each of them. -/
theorem parts_of_yields (h : (Cleaning.run manifest root language).Yields start cleaning final) :
    ∃ between emptied classes cache,
      (removeFilesWithExtension (manifest.paths.resolve root language).generatedDir
        language.extension).Yields start cleaning.sources between ∧
      (removeDirectoryIfPresent (manifest.paths.resolve root language).classesDir).Yields between
        classes emptied ∧
      (removeFileIfPresent (manifest.paths.resolve root language).cacheFile).Yields emptied cache
        final ∧
      cleaning = ⟨language, cleaning.sources,
        (if classes then [(manifest.paths.resolve root language).classesDir] else []) ++
          if cache then [(manifest.paths.resolve root language).cacheFile] else []⟩ := by
  obtain ⟨count, between, hsources, hrest⟩ := yields_bind.1 h
  obtain ⟨classes, emptied, hclasses, hrest⟩ := yields_bind.1 hrest
  obtain ⟨cache, last, hcache, hreport⟩ := yields_bind.1 hrest
  obtain ⟨hcleaning, hfinal⟩ := yields_pure.1 hreport
  subst hcleaning hfinal
  exact ⟨between, emptied, classes, cache, hsources, hclasses, hcache, rfl⟩

/-- What three removals remove that succeed is the footprint of a language. -/
private theorem removes_of_parts {classes cache : Bool} (hproper : start.files.Proper)
    (hdir : paths.generatedDir ≠ "") (hreach : paths.ReachAll language start.cwd start.files)
    (hnamed : (lastName? paths.classesDir).isSome = true)
    (hroot : target start.cwd paths.classesDir ≠ [])
    (hplain : extensionAt? (target start.cwd paths.classesDir) = none)
    (hother : extensionAt? (target start.cwd paths.cacheFile) ≠ some language.extension)
    (havoids : Avoids (target start.cwd paths.classesDir) start.cwd paths.cacheFile)
    (hsources : (removeFilesWithExtension paths.generatedDir language.extension).Yields start
      cleaning.sources between)
    (hclasses : (removeDirectoryIfPresent paths.classesDir).Yields between classes emptied)
    (hcache : (removeFileIfPresent paths.cacheFile).Yields emptied cache final)
    (hcleaning : cleaning = ⟨language, cleaning.sources,
      (if classes then [paths.classesDir] else []) ++ if cache then [paths.cacheFile] else []⟩) :
    cleaning.Removes paths language start final := by
  obtain ⟨locations, hlength, hnodup, hmem, rfl, hwithout⟩ := without_of_removes_yield hproper hdir
    hreach.sources hreach.classes hnamed hroot hplain hsources hclasses
  -- the cache is none of what is removed before, and what leads to it is still there
  have hnot : target start.cwd paths.cacheFile ∉ locations :=
    fun hlost => hother ((hmem _).1 hlost).1.2
  have hkept (stage : Location) (hstage : stage ∈ stages start.cwd paths.cacheFile)
      (hlost : stage ∉ locations) : emptied.files.get? stage = start.files.get? stage :=
    hwithout.kept stage (not_or.2 ⟨hlost, havoids stage hstage⟩)
  have hfile := Tree.fileAt?_congr (hkept _ (target_mem_stages _ _) hnot)
  have hreaches : emptied.files.ReachesFile emptied.cwd paths.cacheFile := by
    rw [hwithout.cwd]
    intro hsome
    rw [hfile] at hsome
    refine Tree.locate_of_stages (fun stage hstage hdirectory => ?_) (hreach.cache hsome)
    exact (hkept stage (List.dropLast_subset _ hstage) fun hlost =>
      Tree.get?_ne_directory ((hmem stage).1 hlost).2 hdirectory).trans hdirectory
  obtain ⟨rfl, hwithout'⟩ := without_of_removeFileIfPresent_yields hreaches hcache
  rw [hwithout.cwd] at hwithout' hcleaning
  rw [hfile] at hcleaning
  have hboth := hwithout.trans hwithout'
  constructor
  case about => rw [hcleaning]
  case sources => exact ⟨locations, hlength, hnodup, hmem⟩
  case removed => rw [hcleaning]
  case gone =>
    intro location hfootprint
    rcases LanguagePaths.mem_footprint_iff.1 hfootprint with hsite | hinside | rfl
    · exact hboth.fileAt?_eq_none_of_lost fun hsome =>
        .inl (.inl ((hmem location).2 ⟨hsite, hsome⟩))
    · exact hboth.fileAt?_eq_none_of_lost fun _ => .inl (.inr hinside)
    · exact hboth.fileAt?_eq_none_of_lost fun hsome => .inr ⟨rfl, by rwa [hfile]⟩
  case classes => exact hboth.gone _ (.inl (.inr List.prefix_rfl))
  case kept =>
    intro location hfootprint
    rw [LanguagePaths.mem_footprint_iff] at hfootprint
    refine Tree.fileAt?_congr (hboth.kept location ?_)
    rintro ((hlost | hinside) | ⟨hcache, -⟩)
    · exact hfootprint (.inl ((hmem location).1 hlost).1)
    · exact hfootprint (.inr (.inl hinside))
    · exact hfootprint (.inr (.inr hcache))
  case rest => exact hboth.get?_eq_or

/-- A cleaning that succeeds has removed the footprint of its language and nothing else, if the
paths reach what is there, and the path of the cache stays out of the directory of classes. -/
theorem removes_of_yields (hproper : start.files.Proper)
    (hdir : (manifest.paths.resolve root language).generatedDir ≠ "")
    (hreach : (manifest.paths.resolve root language).ReachAll language start.cwd start.files)
    (havoids : Avoids (target start.cwd (manifest.paths.resolve root language).classesDir) start.cwd
      (manifest.paths.resolve root language).cacheFile)
    (h : (Cleaning.run manifest root language).Yields start cleaning final) :
    cleaning.Removes (manifest.paths.resolve root language) language start final := by
  obtain ⟨between, emptied, classes, cache, hsources, hclasses, hcache, hcleaning⟩ :=
    parts_of_yields h
  refine removes_of_parts hproper hdir hreach
    (PathsSection.isSome_lastName?_classesDir manifest.paths root language)
    (PathsSection.target_classesDir_ne manifest.paths root language _)
    (PathsSection.extensionAt?_classesDir manifest.paths root language _) ?_ havoids hsources
    hclasses hcache hcleaning
  rw [PathsSection.extensionAt?_cacheFile]
  cases language <;> decide

/-- Cleaning keeps trees proper. -/
theorem keeps_properAt_run (cwd : Location) :
    (Cleaning.run manifest root language).Keeps (ProperAt cwd) :=
  (keeps_properAt_removeFilesWithExtension _ _).bind fun _ =>
    (keeps_properAt_removeDirectoryIfPresent _).bind fun _ =>
      (keeps_properAt_removeFileIfPresent _).bind fun _ => .pure _

/-- Where no file is found in the place of a directory, none is found when something is gone. -/
private theorem node_ne_file {path : String} (hcwd : final.cwd = start.cwd)
    (hrest : ∀ location, final.files.get? location = start.files.get? location ∨
      final.files.get? location = none)
    (hnode : ∀ bytes, start.files.node start.cwd path ≠ .ok (.file bytes)) (bytes : ByteArray) :
    final.files.node final.cwd path ≠ .ok (.file bytes) := by
  intro hfile
  obtain ⟨hlocate, hget⟩ := Tree.node_eq_ok.1 hfile
  rw [hcwd] at hlocate hget
  have hsame {location : Location} {node : Node} (hsome : final.files.get? location = some node) :
      start.files.get? location = some node := by
    rcases hrest location with heq | hnone
    · rw [← heq, hsome]
    · rw [hnone] at hsome
      cases hsome
  -- what leads to the file has been there before
  have hstart := Tree.locate_of_stages
    (fun stage hstage _ => hsame (Tree.get?_of_locate hlocate stage hstage)) hlocate
  exact hnode bytes (Tree.node_eq_ok.2 ⟨hstart, hsame hget⟩)

/-- After a cleaning that has succeeded, another one removes nothing. -/
theorem Removes.again (hremoves : cleaning.Removes (manifest.paths.resolve root language) language
      start final)
    (hproper : start.files.Proper)
    (h : (Cleaning.run manifest root language).Yields start cleaning final) :
    (Cleaning.run manifest root language).Yields final ⟨language, 0, []⟩ final := by
  have hfinal : final.ProperAt start.cwd := (keeps_properAt_run _).of_yields h ⟨rfl, hproper⟩
  obtain ⟨between, _, _, _, hsources, -, -, -⟩ := parts_of_yields h
  have hdir (bytes : ByteArray) : start.files.node start.cwd
      (manifest.paths.resolve root language).generatedDir ≠ .ok (.file bytes) := by
    -- the first cleaning would have failed on a file in the place of the directory
    intro hfile
    rw [Yields, exec_removeFilesWithExtension_of_file hfile] at hsources
    cases (Prod.mk.inj hsources).1
  have hnosources := removeFilesWithExtension_yields_zero hfinal.proper
    (node_ne_file hfinal.cwd hremoves.rest hdir) fun location hsite => by
      rw [hfinal.cwd] at hsite
      exact hremoves.gone location (LanguagePaths.mem_footprint_iff.2 (.inl hsite))
  have hgone : final.files.get?
      (target final.cwd (manifest.paths.resolve root language).classesDir) = none := by
    rw [hfinal.cwd]
    exact hremoves.classes
  obtain ⟨refusal, hrefusal⟩ := exists_node_eq_error hgone
  have hnoclasses := exec_removeDirectoryIfPresent_of_absent hrefusal
  have hnocache : ¬ final.isFile (manifest.paths.resolve root language).cacheFile = true := by
    intro hisFile
    obtain ⟨bytes, hnode⟩ := Tree.isFile_iff.1 hisFile
    have hfile := Tree.fileAt?_eq_some.2 (Tree.node_eq_ok.1 hnode).2
    rw [hfinal.cwd, hremoves.gone _ (LanguagePaths.mem_footprint_iff.2 (.inr (.inr rfl)))] at hfile
    cases hfile
  exact yields_bind.2 ⟨0, final, hnosources, yields_bind.2 ⟨false, final, hnoclasses,
    yields_bind.2 ⟨false, final, removeFileIfPresent_yields_of_not_isFile hnocache,
      yields_pure.2 ⟨rfl, rfl⟩⟩⟩⟩

end Cleaning

/-! ## Runs leave what can be reached -/

/-- A session keeps what making the directory of classes keeps, and compilers once that is made. -/
theorem Compiler.Session.keeps_compile_of_made {session : Session} {machine : Machine}
    {version : SdkVersion} {holds made : Workspace → Prop}
    (hholds : ∀ workspace, made workspace → holds workspace)
    (hcompiler : ∀ classpath source start, made start →
      made (start.launch machine (session.command classpath source)).2)
    (hexporter : ∀ command ∈ session.classpath.commands version, ∀ start, holds start →
      holds (start.launch machine command).2)
    (hdirectories : (makeDirectories session.classesDir
      (CompileError.notPrepared session.classesDir)).Keeps holds)
    (hmade : ∀ start final, holds start → (makeDirectories session.classesDir
      (CompileError.notPrepared session.classesDir)).Yields start () final → made final)
    (units : List SourceUnit) : (session.compile machine version units).Keeps holds := by
  cases units with
  | nil => exact .pure []
  | cons sourceUnit units =>
    -- compilers are only launched when the directory has been made
    refine (Classpath.keeps_resolve hexporter).bind fun classpath start hstart => ?_
    refine holds_exec_bind hdirectories hstart fun _ between hyields _ => ?_
    have hrest := (keeps_compileBase hcompiler classpath).bind fun _ =>
      keeps_compileUnits hcompiler classpath (sourceUnit :: units)
    exact hholds _ (hrest between (hmade start between hstart hyields))

/-- A session keeps the path of its directory of classes reaching what stands there, if the path
does not lead through this directory, its compiler changes nothing outside, and the command that
exports the classpath changes nothing on the way. -/
theorem Compiler.Session.keeps_compile_reachesClasses {session : Session} {machine : Machine}
    {version : SdkVersion} {cwd : Location} {scratch : Set Location} (hproper : machine.KeepsProper)
    (hne : session.classesDir ≠ "")
    (hway : ∀ stage ∈ (stages cwd session.classesDir).dropLast,
      ¬ target cwd session.classesDir <+: stage)
    (hscratch : ∀ stage ∈ stages cwd session.classesDir, stage ∉ scratch)
    (hcompiler : ∀ classpath source, ∀ files : Tree, files.Proper →
      ∀ location, ¬ target cwd session.classesDir <+: location →
        (machine.run (session.command classpath source) cwd files).2.get? location =
          files.get? location)
    (hexporter : ∀ command ∈ session.classpath.commands version, ∀ files : Tree, files.Proper →
      ∀ location ∉ scratch,
        (machine.run command cwd files).2.get? location = files.get? location)
    (units : List SourceUnit) :
    (session.compile machine version units).Keeps fun workspace =>
      workspace.ProperAt cwd ∧ workspace.ReachesIf (fun _ => true) cwd session.classesDir := by
  -- from then on the path can be followed, and not only if something stands in its place
  let made (workspace : Workspace) : Prop := workspace.ProperAt cwd ∧
    workspace.files.locate cwd session.classesDir = .ok (target cwd session.classesDir)
  have hplace : target cwd session.classesDir ∉ (stages cwd session.classesDir).dropLast :=
    fun hmem => hway _ hmem List.prefix_rfl
  refine keeps_compile_of_made (fun workspace (hmade : made workspace) => ?_) ?_ ?_ ?_ ?_ units
  · exact ⟨hmade.1, fun _ => hmade.2, hmade.1.cwd⟩
  · rintro classpath source start ⟨⟨rfl, hfiles⟩, hlocate⟩
    refine ⟨⟨rfl, hproper _ _ _ hfiles⟩, Tree.locate_of_stages (fun stage hstage hdirectory => ?_)
      hlocate⟩
    exact (hcompiler classpath source start.files hfiles stage (hway stage hstage)).trans hdirectory
  · rintro command hcommand start ⟨⟨rfl, hfiles⟩, hreaches⟩
    exact ⟨⟨rfl, hproper _ _ _ hfiles⟩,
      hreaches.launch (hexporter command hcommand start.files hfiles) hscratch⟩
  · refine (keeps_properAt_makeDirectories _ _).and (.makeDirectories ?_)
    rintro start ⟨hreaches, rfl⟩
    exact ⟨Tree.reaches_iff.1 ((Tree.reaches_iff.2 hreaches).makeDirectories hplace), rfl⟩
  · rintro start final ⟨⟨rfl, hfiles⟩, -⟩ hyields
    have hfinal := (keeps_properAt_makeDirectories _ _).of_yields hyields ⟨rfl, hfiles⟩
    obtain ⟨hmade, rfl⟩ := yields_changeFiles.1 hyields
    exact ⟨hfinal, Tree.locate_of_makeDirectories hne hmade⟩

namespace Task

/-- The files that a task may write: those with the extension of the language in the directory of
generated sources, the cache and the baseline. -/
def Writes (task : Task) (path : String) : Prop :=
  (∃ name, IsName name ∧ extensionAt? [name] = some task.language.extension ∧
    path = Path.join task.paths.generatedDir name) ∨
  path = task.paths.cacheFile ∨ path = task.paths.baselineFile

variable {task : Task} {machine : Machine} {cwd : Location} {kind : Node → Bool} {path : String}

/-- The source of a unit is a file that a task may write. -/
theorem writes_pathIn {sourceUnit : SourceUnit} (h : sourceUnit.WellNamed task.language) :
    task.Writes (sourceUnit.pathIn task.paths.generatedDir) := by
  refine .inl ⟨sourceUnit.fileName, h.isName, ?_, rfl⟩
  have hextension := h.extensionAt?_target_pathIn [] ""
  rw [h.target_pathIn] at hextension
  exact hextension

section Writes

variable (hpaths : ∃ given root, task.paths = PathsSection.resolve given root task.language)
include hpaths

/-- A file that a task may write is a name that is joined to the path of a directory. -/
theorem Writes.exists_join (h : task.Writes path) :
    ∃ dir name, IsName name ∧ path = Path.join dir name := by
  obtain ⟨given, root, hpaths⟩ := hpaths
  rcases h with ⟨name, hname, -, rfl⟩ | rfl | rfl
  · exact ⟨_, name, hname, rfl⟩
  · rw [hpaths]
    exact PathsSection.exists_cacheFile_eq given root task.language
  · rw [hpaths]
    exact PathsSection.exists_baselineFile_eq given root task.language

/-- No two files that a task may write stand in one place. -/
theorem Writes.eq_of_target_eq {other : String} (h : task.Writes path) (hother : task.Writes other)
    (heq : target cwd path = target cwd other) : path = other := by
  obtain ⟨given, root, hpaths⟩ := hpaths
  have hcache := PathsSection.extensionAt?_cacheFile given root task.language cwd
  have hbaseline := PathsSection.extensionAt?_baselineFile given root task.language cwd
  have hne := PathsSection.target_cacheFile_ne given root task.language cwd
  rw [← hpaths] at hcache hbaseline hne
  -- sources have another extension than the cache and the baseline
  have hsource {name : String} {state : Location} (hname : IsName name)
      (hextension : extensionAt? [name] = some task.language.extension)
      (hstate : extensionAt? state = some "json") :
      target cwd (Path.join task.paths.generatedDir name) ≠ state := by
    rintro rfl
    rw [target_join hname, extensionAt?, List.getLast?_concat] at hstate
    have hjson : some "json" = some task.language.extension := hstate.symm.trans hextension
    cases htask : task.language <;> rw [htask] at hjson <;> exact absurd hjson (by decide)
  rcases h with ⟨name, hname, hextension, rfl⟩ | rfl | rfl
  · rcases hother with ⟨name', hname', -, rfl⟩ | rfl | rfl
    · rw [target_join hname, target_join hname'] at heq
      rw [List.singleton_injective (List.append_cancel_left heq)]
    · exact absurd heq (hsource hname hextension hcache)
    · exact absurd heq (hsource hname hextension hbaseline)
  · rcases hother with ⟨name', hname', hextension', rfl⟩ | rfl | rfl
    · exact absurd heq.symm (hsource hname' hextension' hcache)
    · rfl
    · exact absurd heq hne
  · rcases hother with ⟨name', hname', hextension', rfl⟩ | rfl | rfl
    · exact absurd heq.symm (hsource hname' hextension' hbaseline)
    · exact absurd heq.symm hne
    · rfl

/-- The directory of classes is not on the way to a file that a task may write, if no path of the
task leads through it. -/
theorem Writes.classesDir_not_mem_stages (h : task.Writes path)
    (houtside : ∀ path ∈ [task.paths.generatedDir, task.paths.cacheFile, task.paths.baselineFile],
      Avoids (target cwd task.paths.classesDir) cwd path) :
    target cwd task.paths.classesDir ∉ stages cwd path := by
  intro hmem
  rcases h with ⟨name, hname, hextension, rfl⟩ | hstate
  · rcases (mem_stages_join hname _).1 hmem with hstage | heq
    · exact houtside _ List.mem_cons_self _ hstage List.prefix_rfl
    · -- the directory of classes has no extension
      obtain ⟨given, root, hpaths⟩ := hpaths
      have hplain := PathsSection.extensionAt?_classesDir given root task.language cwd
      rw [← hpaths, heq, target_join hname, extensionAt?, List.getLast?_concat] at hplain
      cases hextension.symm.trans hplain
  · refine houtside path ?_ _ hmem List.prefix_rfl
    exact List.mem_cons_of_mem _ (List.mem_pair.2 hstate)

end Writes

/-- Every step of a task keeps a path reaching what stands in its place if that is of some kind,
unless something of this kind is put there by another path. -/
theorem stepsKeep_reachesIf
    (hpaths : ∃ given root, task.paths = PathsSection.resolve given root task.language)
    (hway : ∀ stage ∈ (stages cwd path).dropLast, ¬ target cwd task.paths.classesDir <+: stage)
    (hplace : ∀ file, task.Writes file →
      target cwd path ∉ (stages cwd file).dropLast ∨ kind .directory = false)
    (hsame : ∀ file, task.Writes file → target cwd path = target cwd file → path = file)
    (hsession : ∀ units, (task.session.compile machine task.version units).Keeps fun workspace =>
      workspace.ProperAt cwd ∧ workspace.ReachesIf kind cwd path) :
    task.StepsKeep machine fun workspace =>
      workspace.ProperAt cwd ∧ workspace.ReachesIf kind cwd path := by
  have hwrite (file content : String) (hfile : task.Writes file) :
      (writeText file content).Keeps fun workspace =>
        workspace.ProperAt cwd ∧ workspace.ReachesIf kind cwd path := by
    obtain ⟨dir, name, hname, rfl⟩ := hfile.exists_join hpaths
    refine (keeps_properAt_writeText _ _).and (keeps_reachesIf_writeText hname content ?_
      (hsame _ hfile))
    rw [← mem_dropLast_stages_join hname]
    exact hplace _ hfile
  constructor
  case sources =>
    exact (keeps_properAt_removeFilesWithExtension _ _).and
      (lossy_reachesIf.removeFilesWithExtension _ _)
  case classes =>
    exact (keeps_properAt_removeDirectoryIfPresent _).and
      (keeps_reachesIf_removeDirectoryIfPresent hway)
  case unit =>
    exact fun sourceUnit hunit => hwrite _ _ (writes_pathIn hunit)
  case forget =>
    exact (keeps_properAt_removeFileIfPresent _).and (lossy_reachesIf.removeFileIfPresent _)
  case save => exact fun content => hwrite _ content (.inr (.inl rfl))
  case release =>
    exact fun _ =>
      (keeps_properAt_removeFileIfPresent _).and (lossy_reachesIf.removeFileIfPresent _)
  case capture => exact fun _ content => hwrite _ content (.inr (.inr rfl))
  case session => exact hsession

end Task

namespace Site

variable {site : Site} {language : Language} {cwd : Location} {scratch : Set Location}
  {start : Workspace}

/-- Validations keep what every step of their tasks keeps. -/
theorem holds_performAll_validations {holds : Workspace → Prop} {choices : List ValidationChoice}
    (h : ∀ choice ∈ choices, ∀ workspace,
      (site.task workspace choice).StepsKeep site.machine holds)
    (hstart : holds start) :
    holds (site.performAll (choices.map .validate) start).2 := by
  induction choices generalizing start with
  | nil => exact hstart
  | cons choice choices ih =>
    obtain ⟨hfirst, hlater⟩ := List.forall_mem_cons.1 h
    have hbetween := (hfirst start).holds_course hstart
    rw [← snd_perform_validate] at hbetween
    exact ih hlater hbetween

/-- Cleaning can undo validations of a language that start from a tree: there are none of the files
that cleaning removes, the paths stay out of the directory of classes, and the commands change
nothing that cleaning needs to find these files. A path that does not lead up stays out of the
directory just when its place lies outside (`Files.avoids_iff_of_not_mem_parts`). -/
structure Cleanable (site : Site) (language : Language) (cwd : Location) (scratch : Set Location)
    (start : Tree) : Prop where
  contained : site.Contained language cwd scratch
  dir : (site.paths language).generatedDir ≠ ""
  sources : ∀ location ∈ sites (target cwd (site.paths language).generatedDir) language.extension,
    start.fileAt? location = none
  classes : start.get? (target cwd (site.paths language).classesDir) = none
  cache : start.fileAt? (target cwd (site.paths language).cacheFile) = none
  outside : ∀ path ∈ [(site.paths language).generatedDir, (site.paths language).cacheFile,
      (site.paths language).baselineFile],
    Avoids (target cwd (site.paths language).classesDir) cwd path
  way : ∀ stage ∈ (stages cwd (site.paths language).classesDir).dropLast,
    ¬ target cwd (site.paths language).classesDir <+: stage
  scratched : ∀ location ∈ scratch,
    location ∉ sites (target cwd (site.paths language).generatedDir) language.extension ∧
      ∀ path ∈ [(site.paths language).generatedDir, (site.paths language).classesDir,
        (site.paths language).cacheFile], location ∉ stages cwd path

namespace Contained

variable (h : site.Contained language cwd scratch) {choice : ValidationChoice}
  (hlanguage : choice.language = language) (workspace : Workspace)
include h hlanguage

/-- A validation keeps the path of a file that it may write reaching this file, if the path leads
neither through the directory of classes nor through what is scratched. -/
private theorem stepsKeep_reachesFile {path : String}
    (hpath : (site.task workspace choice).Writes path)
    (havoids : Avoids (target cwd (site.paths language).classesDir) cwd path)
    (hscratch : ∀ stage ∈ stages cwd path, stage ∉ scratch) :
    (site.task workspace choice).StepsKeep site.machine fun workspace =>
      workspace.ProperAt cwd ∧ workspace.ReachesIf Node.isFile cwd path := by
  subst hlanguage
  have hpaths := site.paths_task workspace choice
  refine Task.stepsKeep_reachesIf hpaths
    (fun stage hstage => havoids stage (List.dropLast_subset _ hstage)) (fun _ _ => .inr rfl)
    (fun file hfile => hpath.eq_of_target_eq hpaths hfile)
    (Compiler.Session.keeps_compile ?_ ?_
      ((keeps_properAt_makeDirectories _ _).and (keeps_reachesIf_makeDirectories _ (.inr rfl))))
  · rintro classpath source start ⟨⟨rfl, hproper⟩, hreaches⟩
    exact ⟨⟨rfl, h.proper _ _ _ hproper⟩, hreaches.launch
      (h.compiler workspace choice rfl classpath source start.files hproper) havoids⟩
  · rintro command hcommand start ⟨⟨rfl, hproper⟩, hreaches⟩
    exact ⟨⟨rfl, h.proper _ _ _ hproper⟩, hreaches.launch
      (h.exporter choice.version command hcommand start.files hproper) hscratch⟩

/-- A validation keeps the path of the directory of classes reaching what stands there, if none of
its paths leads through this directory, and nothing is scratched on the way to it. -/
private theorem stepsKeep_reachesClasses
    (hway : ∀ stage ∈ (stages cwd (site.paths language).classesDir).dropLast,
      ¬ target cwd (site.paths language).classesDir <+: stage)
    (houtside : ∀ path ∈ [(site.paths language).generatedDir, (site.paths language).cacheFile,
        (site.paths language).baselineFile],
      Avoids (target cwd (site.paths language).classesDir) cwd path)
    (hscratch : ∀ stage ∈ stages cwd (site.paths language).classesDir, stage ∉ scratch) :
    (site.task workspace choice).StepsKeep site.machine fun workspace =>
      workspace.ProperAt cwd ∧
        workspace.ReachesIf (fun _ => true) cwd (site.paths language).classesDir := by
  subst hlanguage
  have hpaths := site.paths_task workspace choice
  have hfree (file : String) (hfile : (site.task workspace choice).Writes file) :=
    hfile.classesDir_not_mem_stages hpaths houtside
  have hne : (site.task workspace choice).session.classesDir ≠ "" :=
    PathsSection.classesDir_ne_empty site.manifest.paths site.root choice.language
  have hother (file : String) (hfile : (site.task workspace choice).Writes file) :
      target cwd (site.paths choice.language).classesDir ≠ target cwd file := by
    intro heq
    have hmem := target_mem_stages cwd file
    rw [← heq] at hmem
    exact hfree file hfile hmem
  exact Task.stepsKeep_reachesIf hpaths hway
    (fun file hfile => .inl fun hmem => hfree file hfile (List.dropLast_subset _ hmem))
    (fun file hfile heq => absurd heq (hother file hfile))
    (Compiler.Session.keeps_compile_reachesClasses h.proper hne hway hscratch
      (h.compiler workspace choice rfl) (h.exporter choice.version))

/-- A validation stays within the territory of its language, with what is scratched. -/
private theorem stepsKeep_within (origin : Tree) :
    (site.task workspace choice).StepsKeep site.machine
      (Within cwd ((site.paths language).territory language cwd scratch ∅) origin) := by
  refine (h.bounded_task hlanguage subset_rfl ?_ ?_ rfl workspace origin).stepsKeep_within
  · rintro location (hfootprint | hscratch)
    · exact .inl (LanguagePaths.mem_outputs_iff.2 (.inl hfootprint))
    · exact .inr hscratch
  · exact fun _ => .inl (LanguagePaths.mem_outputs_iff.2 (.inr rfl))

end Contained

namespace Cleanable

variable (h : site.Cleanable language cwd scratch start.files) (hstart : start.ProperAt cwd)
  {choices : List ValidationChoice} (hchoices : ∀ choice ∈ choices, choice.language = language)
include h hstart hchoices

/-- A file is reached that the validations may have written, for nothing has stood in its place at
first. -/
private theorem reachesFile_performAll {path : String}
    (hwrites : ∀ choice ∈ choices, ∀ workspace, (site.task workspace choice).Writes path)
    (havoids : Avoids (target cwd (site.paths language).classesDir) cwd path)
    (hscratch : ∀ stage ∈ stages cwd path, stage ∉ scratch)
    (hnone : start.files.fileAt? (target cwd path) = none) :
    (site.performAll (choices.map .validate) start).2.files.ReachesFile cwd path := by
  have hfirst : start.files.ReachesFile cwd path := by
    intro hsome
    rw [hnone] at hsome
    cases hsome
  exact Tree.reachesFile_iff.2 (holds_performAll_validations (fun choice hchoice workspace =>
    h.contained.stepsKeep_reachesFile (hchoices choice hchoice) workspace
      (hwrites choice hchoice workspace) havoids hscratch)
    ⟨hstart, Tree.reachesFile_iff.1 hfirst, hstart.cwd⟩).2.reaches

/-- The directory of classes is reached that the validations may have made. -/
private theorem reachesClasses_performAll :
    (site.performAll (choices.map .validate) start).2.files.Reaches cwd
      (site.paths language).classesDir := by
  have hfirst : start.files.Reaches cwd (site.paths language).classesDir := by
    intro hsome
    rw [h.classes] at hsome
    cases hsome
  refine Tree.reaches_iff.2 (holds_performAll_validations (fun choice hchoice workspace =>
    h.contained.stepsKeep_reachesClasses (hchoices choice hchoice) workspace h.way h.outside
      fun stage hstage hscratch => ?_)
    ⟨hstart, Tree.reaches_iff.1 hfirst, hstart.cwd⟩).2.reaches
  exact (h.scratched stage hscratch).2 _ (by simp) hstage

/-- The paths of the language reach what its validations have left. -/
private theorem reachAll_performAll :
    (site.paths language).ReachAll language cwd
      (site.performAll (choices.map .validate) start).2.files := by
  have houtside := h.outside
  simp only [List.forall_mem_cons, List.not_mem_nil, false_implies, implies_true, and_true]
    at houtside
  constructor
  case sources =>
    intro name hname hsite
    have hextension : extensionAt? [name] = some language.extension := by
      have hsource := hsite.2
      rw [extensionAt?, List.getLast?_concat] at hsource
      exact hsource
    -- the way to a source is the way to its directory, with the source itself
    refine h.reachesFile_performAll hstart hchoices (fun choice hchoice workspace => ?_)
      (fun stage hstage hinside => ?_) (fun stage hstage hscratch => ?_) ?_
    · refine .inl ⟨name, hname, ?_, ?_⟩
      · rw [language_task, hchoices choice hchoice, hextension]
      · rw [← hchoices choice hchoice]
        rfl
    · rcases (mem_stages_join hname _).1 hstage with hdir | heq
      · exact houtside.1 stage hdir hinside
      · rw [heq, target_join hname] at hinside
        exact LanguagePaths.not_isPrefix_of_mem_sites houtside.1.target hsite hinside
    · rcases (mem_stages_join hname _).1 hstage with hdir | heq
      · exact (h.scratched stage hscratch).2 _ List.mem_cons_self hdir
      · rw [heq, target_join hname] at hscratch
        exact (h.scratched _ hscratch).1 hsite
    · rw [target_join hname]
      exact h.sources _ hsite
  case classes => exact h.reachesClasses_performAll hstart hchoices
  case cache =>
    refine h.reachesFile_performAll hstart hchoices (fun choice hchoice workspace => ?_)
      houtside.2.1 (fun stage hstage hscratch => (h.scratched stage hscratch).2 _ (by simp) hstage)
      h.cache
    rw [← hchoices choice hchoice]
    exact .inr (.inl rfl)

/-- Validations change no file outside the territory of their language. -/
private theorem within_performAll :
    Within cwd ((site.paths language).territory language cwd scratch ∅) start.files
      (site.performAll (choices.map .validate) start).2 :=
  holds_performAll_validations (fun choice hchoice workspace =>
      h.contained.stepsKeep_within (hchoices choice hchoice) workspace start.files)
    ⟨hstart, .refl _ _⟩

end Cleanable

/-- A cleaning has undone validations: but for the baseline and what is scratched, every file is as
it was before them. The cleaning tells what it has removed, and another one removes nothing. -/
structure Undone (site : Site) (language : Language) (cwd : Location) (scratch : Set Location)
    (start between final : Workspace) (cleaning : Cleaning) : Prop where
  files : ∀ location, location ≠ target cwd (site.paths language).baselineFile →
    location ∉ scratch → final.files.fileAt? location = start.files.fileAt? location
  removes : cleaning.Removes (site.paths language) language between final
  again : (Cleaning.run site.manifest site.root language).Yields final ⟨language, 0, []⟩ final

/-- The file that a command leaves: a class in the directory of a compiler, and the file `o` if the
command runs elsewhere. -/
def leftBy (command : Command) : String :=
  if command.dir.isSome then "o" else Path.join (command.args.reverse.getD 1 "") "X.class"

/-- A machine whose commands succeed and leave a file. -/
def leaving : Machine where
  run command cwd files :=
    (some ⟨.code 0, [], []⟩,
      (files.write cwd (leftBy command) "l".toUTF8).toOption.getD files)

/-- A site with one directory of documents, and with the base source `J`. -/
def cleared (cache : String) (classpath : ClasspathSection) : Site where
  machine := leaving
  manifest := {
    project := { docs := ⟨["d"], ⟨0, 0⟩⟩, extensions := ["m"] }
    sdk := {}
    paths := { generated := "g", classes := "c", cache, baselines := "b" }
    classpath
    java := some { baseSource := some "J", imports := some [] } }
  root := ""
  environment _ := none

/-- A workspace with the base source and with a document. -/
def unvalidated : Workspace where
  files := ⟨[(["J"], .file "".toUTF8), (["d"], .directory),
    (["d", "a.m"], .file "```java\n1\n```".toUTF8)]⟩

/-- A classpath that a command leaves in the file `o`. -/
def exported : ClasspathSection :=
  { command := some ⟨["e"], ⟨0, 0⟩⟩, output := some "o" }

variable {cache : String} {classpath : ClasspathSection}

/-- What a machine leaves keeps trees proper. -/
private theorem keepsProper_leaving : leaving.KeepsProper := by
  intro command cwd files hproper
  simp only [leaving]
  cases hwrite : files.write cwd _ "l".toUTF8 with
  | error refusal => exact hproper
  | ok after => exact hproper.write hwrite

/-- A command changes nothing but the file that it leaves. -/
private theorem get?_run_leaving {command : Command} {files : Tree} {location : Location}
    (hne : location ≠ target [] (leftBy command)) :
    (leaving.run command [] files).2.get? location = files.get? location := by
  simp only [leaving]
  cases hwrite : files.write [] (leftBy command) "l".toUTF8 with
  | error refusal => rfl
  | ok after =>
    obtain ⟨-, -, rfl⟩ := Tree.write_eq_ok hwrite
    exact Tree.get?_set_of_ne _ _ hne

/-- Commands of the site are contained: compilers change their directory only, and the command for
the classpath changes the file `o` only. -/
private theorem contained_cleared :
    (cleared cache classpath).Contained .java [] {["o"]} where
  proper := keepsProper_leaving
  compiler workspace choice hlanguage found source files _ location houtside := by
    have hclass : IsName "X.class" := ⟨by decide, by decide, by decide, by decide⟩
    have hdir : ((cleared cache classpath).task workspace choice).session.classesDir =
        ((cleared cache classpath).paths .java).classesDir := by
      rw [← hlanguage]
      rfl
    have hleft : leftBy (((cleared cache classpath).task workspace choice).session.command found
        source) = Path.join ((cleared cache classpath).paths .java).classesDir "X.class" := by
      simp [leftBy, Compiler.Session.command, Compiler.Toolchain.command, Compiler.Convention.args,
        hdir]
    refine get?_run_leaving fun heq => houtside ?_
    rw [heq, hleft, target_join hclass]
    exact List.prefix_append _ _
  exporter version command hcommand files _ location hne := by
    have hdir : command.dir.isSome = true := by
      unfold Compiler.Classpath.commands at hcommand
      split at hcommand
      next => cases hcommand
      next exporter _ =>
        unfold Compiler.Exporter.commands at hcommand
        split at hcommand
        next => cases hcommand
        next =>
          rw [List.mem_singleton.1 hcommand]
          rfl
    have hleft : target [] (leftBy command) = ["o"] := by
      rw [leftBy, if_pos hdir]
      decide +kernel
    exact get?_run_leaving fun heq => hne (heq.trans hleft)

/-- At first, there are no sources. -/
private theorem fileAt?_unvalidated {location : Location} (h : location ∈ sites ["g"] "java") :
    unvalidated.files.fileAt? location = none := by
  have hproper : unvalidated.files.Proper := by decide +kernel
  have hnone : unvalidated.files.get? ["g"] = none := by rfl
  rw [Tree.fileAt?, hproper.get?_eq_none_below hnone]
  rw [← h.1]
  exact List.dropLast_prefix location

/-- What one may take to be enough for cleaning to undo validations of a language: there are none of
the files that cleaning removes, compilers change nothing outside the directory of classes, and no
path of the site leads into this directory. -/
structure Unused (site : Site) (language : Language) (cwd : Location) (start : Tree) : Prop where
  contained : site.Contained language cwd Set.univ
  sources : ∀ location ∈ sites (target cwd (site.paths language).generatedDir) language.extension,
    start.fileAt? location = none
  classes : start.get? (target cwd (site.paths language).classesDir) = none
  cache : start.fileAt? (target cwd (site.paths language).cacheFile) = none
  outside : ∀ path ∈ [(site.paths language).generatedDir, (site.paths language).cacheFile,
      (site.paths language).baselineFile,
      Path.join site.root (site.manifest.settings language).baseSource] ++
      site.manifest.project.docs.value.map (Path.join site.root),
    ¬ target cwd (site.paths language).classesDir <+: target cwd path

/-- A cleaning after a validation of the Java snippets succeeds, and yet there is a file that has
not been there before, and that is not the baseline. -/
def Leaves (site : Site) (start : Workspace) (location : Location) : Prop :=
  ∃ cleaning final,
    (Cleaning.run site.manifest site.root .java).Yields
      (site.performAll [.validate normalJava] start).2 cleaning final ∧
    location ≠ target [] (site.paths .java).baselineFile ∧
    start.files.fileAt? location = none ∧ (final.files.fileAt? location).isSome = true

/-- A site is as one may ask. -/
private theorem unused_cleared
    (hdir : target [] ((cleared cache classpath).paths .java).generatedDir = ["g"])
    (hclasses : target [] ((cleared cache classpath).paths .java).classesDir =
      ["c", "snippet-java-classes"])
    (hcache : unvalidated.files.fileAt?
      (target [] ((cleared cache classpath).paths .java).cacheFile) = none)
    (houtside : ∀ path ∈ [((cleared cache classpath).paths .java).generatedDir,
        ((cleared cache classpath).paths .java).cacheFile,
        ((cleared cache classpath).paths .java).baselineFile, Path.join "" "J"] ++
        ["d"].map (Path.join ""),
      ¬ ["c", "snippet-java-classes"] <+: target [] path) :
    (cleared cache classpath).Unused .java [] unvalidated.files where
  contained := {
    contained_cleared with
    exporter := fun version command hcommand files hfiles location hmem =>
      absurd (Set.mem_univ location) hmem }
  sources location hsite := by
    rw [hdir] at hsite
    exact fileAt?_unvalidated hsite
  classes := by
    rw [hclasses]
    rfl
  cache := hcache
  outside := by
    rw [hclasses]
    exact houtside

end Site

end SnippetCheck
