import SnippetCheck.Proofs.Compiler.Tandem
import SnippetCheck.Proofs.Run.Course
import SnippetCheck.Proofs.Run.Regenerate

/-!
# Capture Runs In Tandem

A capture run goes the same way from workspaces that differ in what earlier runs have left only, if
its commands do not see what may differ while they run: the baseline, and directories that are not
made yet (`Task.AlikeButHistory.same_course`). Each phase ends alike in both, with less that may
differ afterwards.
-/

namespace SnippetCheck

open Action Files Workspace Phase

/-! ## Two courses -/

/-- Two courses, each from a workspace of its own, have launched the same commands and have the same
result. -/
structure Course.Same (start start' : Workspace) (ended other : Course × Workspace) : Prop where
  result : other.1.result = ended.1.result
  inStep : start.InStep start' ended.2 other.2

/-- How events end that happen from a workspace. -/
def Pipeline.ended (events : List Event) (run : Run) (start : Workspace) :
    Except RunError Run × Workspace :=
  (((performAll events run).run start).1.result, ((performAll events run).run start).2)

/-- Courses that end with the same result and in step are the same. -/
theorem Course.Same.of_endAlike {origin origin' start other : Workspace} {events : List Event}
    {run : Run} (h : EndAlike Eq (origin.InStep origin') (origin.InStep origin')
      (Pipeline.ended events run start) (Pipeline.ended events run other)) :
    Course.Same origin origin' ((Pipeline.performAll events run).run start)
      ((Pipeline.performAll events run).run other) := by
  generalize hend : Pipeline.ended events run start = end₁ at h
  generalize hend' : Pipeline.ended events run other = end₂ at h
  obtain ⟨hresult, hfinal⟩ := Prod.mk.inj hend
  obtain ⟨hresult', hfinal'⟩ := Prod.mk.inj hend'
  constructor
  · rw [hresult, hresult']
    cases h with
    | ok hsame => rw [hsame]
    | error => rfl
  · rw [hfinal, hfinal']
    cases h with
    | ok _ hinStep => exact hinStep
    | error hinStep => exact hinStep

/-- When the first event ends alike and the others do from there, events end alike. -/
theorem Pipeline.endAlike_ended_cons {event : Event} {events : List Event} {run run' : Run}
    {start other : Workspace} {same same' : Run → Run → Prop}
    {between after failed : Workspace → Workspace → Prop}
    (h : EndAlike same between failed ((event.perform run).exec start)
      ((event.perform run').exec other))
    (hrest : ∀ next next' middle middle', (event.perform run).Yields start next middle →
      same next next' → between middle middle' →
      EndAlike same' after failed (ended events next middle) (ended events next' middle')) :
    EndAlike same' after failed (ended (event :: events) run start)
      (ended (event :: events) run' other) := by
  unfold ended at hrest ⊢
  rw [run_performAll_cons, run_performAll_cons]
  rcases hexec : (event.perform run).exec start with ⟨result, middle⟩
  rcases hexec' : (event.perform run').exec other with ⟨result', middle'⟩
  rw [hexec, hexec'] at h
  cases h with
  | ok hsame hbetween => exact hrest _ _ middle middle' hexec hsame hbetween
  | error hfailed => exact .error hfailed

namespace Phase

variable {machine : Machine} {task : Task} {made dirs : Set Location}
  {start other middle middle' : Workspace} {run : Run}

/-- Extracting from the same documents ends the same, and changes nothing. -/
theorem endAlike_extract {failed : Workspace → Workspace → Prop}
    (h : task.SameDocuments start other) (hfailed : failed start other) :
    EndAlike Eq (fun middle middle' => start = middle ∧ other = middle') failed
      ((extract.perform { task }).exec start) ((extract.perform { task }).exec other) := by
  unfold extract
  rw [exec_get_bind, exec_get_bind]
  dsimp only
  have hrun : (noteMissing { task } (missingRoots task start)).task.extraction.run other =
      (noteMissing { task } (missingRoots task start)).task.extraction.run start := h.run_eq
  rw [h.roots, hrun]
  split
  · split
    · exact .ok rfl ⟨rfl, rfl⟩
    · exact .error hfailed
  · exact .error hfailed

/-- The units are generated in tandem. -/
private theorem endAlike_generate (h : run.task.AlikeButHistory made start other)
    (hapart : run.task.Apart start.cwd made) :
    EndAlike Eq
      (fun middle middle' => start.Alike other (run.task.stateAt start.cwd)
          (run.task.missing start.cwd made
            (SourceUnit.ofSnippets run.task.settings run.snippets)) middle middle' ∧
        middle.files.Clear start.cwd run.task.paths.cacheFile ∧
        middle'.files.Clear start.cwd run.task.paths.cacheFile)
      (start.InStep other)
      ((generate.perform run).exec start) ((generate.perform run).exec other) := by
  refine ((h.endAlike_replaceUnits hapart fun _ =>
    SourceUnit.wellNamed_of_mem_ofSnippets).describing RunError.files).bind ?_
  rintro _ _ middle middle' - hmiddle
  exact .ok rfl hmiddle

/-! ## Compiling -/

/-- When the cache is forgotten whose path is clear, nothing stands there and nothing is loaded. -/
private theorem forgetCache_yields (hmode : task.mode = .capture)
    (hclear : middle.files.Clear middle.cwd task.paths.cacheFile) :
    ∃ final, (forgetCache task).Yields middle () final ∧
      middle.Without {target middle.cwd task.paths.cacheFile} final ∧
      Cache.load final task.paths.cacheFile task.version =
        .error (.missing task.paths.cacheFile) := by
  obtain ⟨present, final, hremove, hwithout, hread⟩ := removeFileIfPresent_yields_of_clear hclear
  refine ⟨final, ?_, hwithout, ?_⟩
  · rw [forgetCache, if_pos (by simp [hmode])]
    exact yields_bind.2 ⟨present, final, hremove, yields_pure.2 ⟨rfl, rfl⟩⟩
  · rw [Cache.load, loadDocument, hread]

/-- Forgetting the cache goes in tandem where its path is clear. Afterwards only the baseline may
differ, and no cache is loaded. -/
private theorem endAlike_forgetCache (hmode : task.mode = .capture)
    (h : start.Alike other (task.stateAt start.cwd) dirs middle middle')
    (hclear : middle.files.Clear start.cwd task.paths.cacheFile)
    (hclear' : middle'.files.Clear start.cwd task.paths.cacheFile) :
    EndAlike Eq
      (fun final final' =>
        start.Alike other {target start.cwd task.paths.baselineFile} dirs final final' ∧
        Cache.load final task.paths.cacheFile task.version =
          .error (.missing task.paths.cacheFile) ∧
        Cache.load final' task.paths.cacheFile task.version =
          .error (.missing task.paths.cacheFile))
      (start.InStep other) ((forgetCache task).exec middle) ((forgetCache task).exec middle') := by
  obtain ⟨final, hforget, hwithout, hload⟩ := forgetCache_yields hmode (h.cwd ▸ hclear)
  obtain ⟨final', hforget', hwithout', hload'⟩ := forgetCache_yields hmode (h.cwd' ▸ hclear')
  rw [hforget, hforget']
  refine .ok rfl ⟨⟨hwithout.cwd.trans h.cwd, hwithout'.cwd.trans h.cwd', ?_, fun location => ?_⟩,
    hload, hload'⟩
  · obtain ⟨launched, hlaunched, hlaunched'⟩ := h.inStep
    exact ⟨launched, hwithout.launches.trans hlaunched, hwithout'.launches.trans hlaunched'⟩
  · rw [h.cwd] at hwithout
    rw [h.cwd'] at hwithout'
    by_cases hcache : location = target start.cwd task.paths.cacheFile
    · refine .of_eq ?_
      rw [hwithout.gone location hcache, hwithout'.gone location hcache]
    · refine ((h.files location).congr (hwithout.kept location hcache)
        (hwithout'.kept location hcache)).mono (fun hmem => ?_) fun hmem => hmem
      exact hmem.resolve_left hcache

/-- When nothing is known, every unit is pending. -/
private theorem pending_empty (units : List SourceUnit) : pending .empty units = units :=
  List.filter_eq_self.2 fun _ _ => rfl

/-- A state file is written in tandem. It is the same afterwards. -/
private theorem tandem_writeState {files : Set Location} {path : String} (content : String)
    (hpath : ∃ dir name, IsName name ∧ path = Path.join dir name)
    (hstart : Files.start start.cwd path ∉ dirs)
    (hway : ∀ stage ∈ (stages start.cwd path).dropLast, stage ∉ files)
    (htarget : target start.cwd path ∉ dirs) :
    (writeText path content).Tandem (start.Alike other files dirs) Eq
      (start.Alike other (files \ {target start.cwd path}) dirs) (start.InStep other) := by
  obtain ⟨dir, name, hname, rfl⟩ := hpath
  rw [start_join hname] at hstart
  refine (tandem_writeText hname content hstart (fun stage hstage => ?_) htarget).imp
    (fun _ _ h => h) fun _ _ h => h.mono (fun _ hmem => hmem) fun _ hmem => hmem.1
  exact hway stage ((mem_dropLast_stages_join hname dir).2 hstage)

/-- The cache is stored in tandem. It is the same afterwards. -/
theorem tandem_saveCache {files : Set Location}
    (hpaths : ∃ given root, task.paths = PathsSection.resolve given root task.language)
    (hstart : Files.start start.cwd task.paths.cacheFile ∉ dirs)
    (hway : ∀ stage ∈ (stages start.cwd task.paths.cacheFile).dropLast, stage ∉ files)
    (htarget : target start.cwd task.paths.cacheFile ∉ dirs) (cache : Cache) :
    (cache.save task.paths.cacheFile task.version).Tandem (start.Alike other files dirs) Eq
      (start.Alike other (files \ {target start.cwd task.paths.cacheFile}) dirs)
      (start.InStep other) := by
  obtain ⟨given, root, hpaths⟩ := hpaths
  refine tandem_writeState _ ?_ hstart hway htarget
  rw [hpaths]
  exact PathsSection.exists_cacheFile_eq given root task.language

/-- A session compiles units in tandem once they have been generated, if it is blind to the
baseline and to the directories that may be missing. -/
private theorem tandem_session (hapart : task.Apart start.cwd made) {units : List SourceUnit}
    (hblind : task.session.Blind machine task.version units start.cwd
      {target start.cwd task.paths.baselineFile}
      (made \ {stage | stage ∈ stages start.cwd task.paths.generatedDir})) :
    (task.session.compile machine task.version units).Tandem
      (start.Alike other {target start.cwd task.paths.baselineFile}
        (task.missing start.cwd made units)) Eq
      (start.Alike other {target start.cwd task.paths.baselineFile} made)
      (start.InStep other) := by
  suffices h : (task.session.compile machine task.version units).Tandem
      (start.Alike other {target start.cwd task.paths.baselineFile}
        (task.missing start.cwd made units)) Eq
      (start.Alike other {target start.cwd task.paths.baselineFile}
        (task.missing start.cwd made units)) (start.InStep other) from
    h.imp (fun _ _ h => h) fun _ _ h => h.mono (fun _ hmem => hmem) (task.missing_subset _ _ _)
  by_cases hunits : units = []
  · rw [hunits]
    exact .pure _
  · rw [Task.missing, if_neg hunits]
    refine Compiler.Session.tandem_compile hblind (fun hmem => hapart.start_not_mem _ hmem.1)
      (fun stage hstage hmem => hapart.classes stage hstage (.inr hmem)) fun stage hstage => ?_
    obtain ⟨hstate, hmade⟩ := hapart.base stage hstage
    exact ⟨fun hmem => hstate (.inr hmem), fun hmem => (hmade hmem.1).resolve_left hmem.2⟩

/-- The units are compiled in tandem when the path of the cache is clear and the session is blind
to the baseline and to the directories that may be missing. -/
private theorem endAlike_compile (hapart : run.task.Apart start.cwd made)
    (hmode : run.task.mode = .capture)
    (hblind : run.task.session.Blind machine run.task.version run.units start.cwd
      {target start.cwd run.task.paths.baselineFile}
      (made \ {stage | stage ∈ stages start.cwd run.task.paths.generatedDir}))
    (h : start.Alike other (run.task.stateAt start.cwd)
      (run.task.missing start.cwd made run.units) middle middle')
    (hclear : middle.files.Clear start.cwd run.task.paths.cacheFile)
    (hclear' : middle'.files.Clear start.cwd run.task.paths.cacheFile) :
    EndAlike Eq
      (start.Alike other {target start.cwd run.task.paths.baselineFile} made) (start.InStep other)
      (((compile machine).perform run).exec middle)
      (((compile machine).perform run).exec middle') := by
  refine ((endAlike_forgetCache hmode h hclear hclear').describing RunError.files).bind ?_
  rintro _ _ final final' - ⟨halike, hload, hload'⟩
  -- no cache is loaded, which is no fault, so that every unit is pending
  have hwarn : orWarn (.error (.missing run.task.paths.cacheFile)) Cache.empty "compile" run =
      (.empty, run) := rfl
  rw [exec_get_bind, exec_get_bind, hload, hload']
  dsimp only
  rw [hwarn]
  dsimp only
  rw [pending_empty]
  refine (((tandem_session hapart hblind).describing RunError.compile).bind fun fresh => ?_)
    final final' halike
  refine ((tandem_saveCache hapart.sited.paths (hapart.start_not_mem _)
    (fun stage hstage hmem => (hapart.cache stage hstage).1 (.inr hmem))
    (hapart.state _ (.inl rfl)) _).describing RunError.files).bind fun _ => (Tandem.pure _).imp
      (fun _ _ h => h.mono Set.sdiff_subset subset_rfl) fun _ _ h => h

/-! ## Capturing -/

/-- Removing a file that may not be there does not fail and launches nothing. -/
private theorem tandem_removeFileIfPresent {failed : Workspace → Workspace → Prop} (path : String) :
    (removeFileIfPresent path).Tandem (start.InStep other) (fun _ _ => True) (start.InStep other)
      failed := by
  have hremoves (workspace : Workspace) :
      ∃ present final, (removeFileIfPresent path).Yields workspace present final ∧
        final.launches = workspace.launches := by
    suffices h : ∃ present final, (removeFileIfPresent path).Yields workspace present final by
      obtain ⟨present, final, h⟩ := h
      exact ⟨present, final, h,
        (((fileless_cwd_launches _ _).removeFileIfPresent _).of_yields h ⟨rfl, rfl⟩).2⟩
    by_cases hfile : workspace.isFile path = true
    · obtain ⟨final, hremove, -⟩ := removeFileIfPresent_yields_of_isFile hfile
      exact ⟨true, final, hremove⟩
    · exact ⟨false, workspace, removeFileIfPresent_yields_of_not_isFile hfile⟩
  rintro middle middle' ⟨launched, hlaunched, hlaunched'⟩
  obtain ⟨present, final, hyields, hlaunches⟩ := hremoves middle
  obtain ⟨present', final', hyields', hlaunches'⟩ := hremoves middle'
  rw [hyields, hyields']
  exact .ok trivial ⟨launched, hlaunches.trans hlaunched, hlaunches'.trans hlaunched'⟩

/-- Failures are captured in tandem, if only the baseline and some directories may differ. -/
private theorem tandem_captureBaseline (hapart : run.task.Apart start.cwd made) :
    (captureBaseline.perform run).Tandem
      (start.Alike other {target start.cwd run.task.paths.baselineFile} made) Eq
      (start.InStep other) (start.InStep other) := by
  have hstore : (storeBaseline run.task.paths.baselineFile (captured run)).Tandem
      (start.Alike other {target start.cwd run.task.paths.baselineFile} made) Eq
      (start.InStep other) (start.InStep other) := by
    unfold storeBaseline
    split
    next =>
      exact (((tandem_removeFileIfPresent _).describing _).bind_const (.pure _)).imp
        (fun _ _ h => h.inStep) fun _ _ h => h
    next =>
      obtain ⟨given, root, hpaths⟩ := hapart.sited.paths
      refine ((tandem_writeState _ ?_ (hapart.start_not_mem _)
        (fun stage hstage hmem => hapart.baseline stage hstage (.inr hmem))
        (hapart.state _ (.inr rfl))).describing _).bind fun _ => (Tandem.pure _).imp
          (fun _ _ h => h.inStep) fun _ _ h => h
      rw [hpaths]
      exact PathsSection.exists_baselineFile_eq given root run.task.language
  cases hmode : run.task.mode with
  | normal =>
    rw [captureBaseline_perform_of_normal hmode]
    exact (Tandem.pure _).imp (fun _ _ h => h.inStep) fun _ _ h => h
  | capture =>
    rw [captureBaseline_perform_of_capture hmode]
    exact hstore.bind fun _ => .pure _

/-- A capture run leaves nothing out. -/
private theorem filterBaseline_perform_eq (hmode : run.task.mode = .capture) :
    filterBaseline.perform run = pure run := by
  unfold filterBaseline
  dsimp only
  rw [hmode]

/-- When nothing is left out, this ends the same. -/
private theorem endAlike_filterBaseline (hmode : run.task.mode = .capture) :
    EndAlike Eq (fun middle middle' => start = middle ∧ other = middle') (start.InStep other)
      ((filterBaseline.perform run).exec start) ((filterBaseline.perform run).exec other) := by
  rw [filterBaseline_perform_eq hmode]
  exact .ok rfl ⟨rfl, rfl⟩

end Phase

namespace Task

variable {machine : Machine} {task : Task} {made : Set Location} {start other : Workspace}

/-- The commands of a capture run are blind to the baseline and to the directories that may still be
missing once the units have been generated. -/
def Blind (task : Task) (machine : Machine) (made : Set Location) (start : Workspace) : Prop :=
  ∀ snippets, task.extraction.run start = .ok snippets →
    task.session.Blind machine task.version (SourceUnit.ofSnippets task.settings snippets) start.cwd
      {target start.cwd task.paths.baselineFile}
      (made \ {stage | stage ∈ stages start.cwd task.paths.generatedDir})

/-- A capture run goes the same way from workspaces with another history. -/
theorem AlikeButHistory.same_course (h : task.AlikeButHistory made start other)
    (hapart : task.Apart start.cwd made) (hmode : task.mode = .capture)
    (hblind : task.Blind machine made start) :
    Course.Same start other ((({} : Pipeline).course machine task).run start)
      ((({} : Pipeline).course machine task).run other) := by
  rw [Pipeline.course, Pipeline.schedule_default]
  refine .of_endAlike (Pipeline.endAlike_ended_cons (endAlike_extract h.documents
    (.refl start other)) ?_)
  rintro extracted _ _ _ hextract rfl ⟨rfl, rfl⟩
  obtain ⟨-, snippets, diagnostics, hsnippets, rfl⟩ := extract_perform_yields hextract
  refine Pipeline.endAlike_ended_cons (endAlike_filterBaseline hmode) ?_
  rintro filtered _ _ _ hfilter rfl ⟨rfl, rfl⟩
  rw [Event.perform, filterBaseline_perform_eq hmode] at hfilter
  obtain ⟨rfl, -⟩ := yields_pure.1 hfilter
  -- from here on the workspaces change
  refine Pipeline.endAlike_ended_cons (endAlike_generate h hapart) ?_
  rintro generated _ middle middle' hgenerate rfl ⟨halike, hclear, hclear'⟩
  obtain ⟨rfl, -⟩ := generate_perform_yields hgenerate
  refine Pipeline.endAlike_ended_cons
    (endAlike_compile hapart hmode (hblind snippets hsnippets) halike hclear hclear') ?_
  rintro compiled _ final final' hcompile rfl halike
  obtain ⟨_, _, _, _, -, -, -, rfl⟩ := compile_perform_yields hcompile
  refine Pipeline.endAlike_ended_cons (tandem_captureBaseline hapart _ _ halike) ?_
  rintro captured _ last last' - rfl hinStep
  exact .ok rfl hinStep

end Task

end SnippetCheck
