import SnippetCheck.Proofs.Run.Regenerate
import SnippetCheck.Proofs.Run.Schedule

/-!
# Runs That Are Aborted

A run that stops in one of the phases before failures are captured persists nothing: the baseline is
as it was, and so is the cache, unless it was to be removed first (`state_of_aborted_run`). For
that, what the run launches has to leave the two files alone: a command for the classpath can write
what it likes, and so can a hook (`cache_written_by_others`).
-/

namespace SnippetCheck

open Action Files Workspace Phase

/-! ## Where a course stops -/

/-- A course stops in a phase: all that belongs to the phases before it has happened, its hooks have
been called, and then it has failed itself. -/
structure Course.StopsIn (course : Course) (pipeline : Pipeline) (earlier : List Phase)
    (phase : Phase) : Prop where
  trail : course.trail.map Prod.fst =
    earlier.flatMap pipeline.eventsOf ++ pipeline.hooks.map (.before · phase) ++ [.work phase]
  result : ∃ error, course.result = .error error

namespace Pipeline

/-- When events succeed one after the other, what each of them preserves holds at the end. -/
theorem holds_performAll_of_ok {holds : Run → Workspace → Prop} {events : List Event}
    (hevents : ∀ event ∈ events, ∀ run start next final, holds run start →
      (event.perform run).Yields start next final → holds next final)
    {run last : Run} {start : Workspace} (hstart : holds run start)
    (h : ((performAll events run).run start).1.result = .ok last) :
    holds last ((performAll events run).run start).2 := by
  induction events generalizing run start with
  | nil =>
    obtain rfl := Except.ok.inj h
    exact hstart
  | cons event events ih =>
    obtain ⟨next, between, hfirst, hresult, hfinal, -⟩ := exists_performAll_eq_ok h
    rw [← hfinal]
    exact ih (fun other hother => hevents other (List.mem_cons_of_mem event hother))
      (hevents event List.mem_cons_self run start next between hstart hfirst) hresult

/-- What happens are the first of the events that are to happen. -/
theorem map_fst_trail_prefix (events : List Event) (run : Run) (start : Workspace) :
    ((performAll events run).run start).1.trail.map Prod.fst <+: events := by
  rcases performAll_cases events run start with
    ⟨last, -, htrail, -⟩ | ⟨done, event, error, -, htrail, ⟨later, hevents⟩, -⟩
  · exact ⟨[], by rw [htrail, List.append_nil]⟩
  · rw [htrail]
    exact ⟨later, by rw [hevents, List.append_assoc, List.singleton_append]⟩

/-- A course that has failed after as many events as come before the end of a phase has stopped in
that phase. -/
theorem stopsIn_of_length {pipeline : Pipeline} {machine : Machine} {task : Task}
    {start : Workspace} {earlier later : List Phase} {phase : Phase}
    (hphases : Phase.all machine ++ pipeline.further = earlier ++ phase :: later)
    (hlength : ((pipeline.course machine task).run start).1.trail.length =
      (earlier.flatMap pipeline.eventsOf).length + pipeline.hooks.length + 1)
    (hresult : ((pipeline.course machine task).run start).1.result.toOption.isNone = true) :
    ((pipeline.course machine task).run start).1.StopsIn pipeline earlier phase where
  trail := by
    have hprefix := map_fst_trail_prefix (pipeline.schedule machine) { task } start
    have hexpected : earlier.flatMap pipeline.eventsOf ++ pipeline.hooks.map (.before · phase) ++
        [.work phase] <+: pipeline.schedule machine := by
      refine ⟨pipeline.hooks.map (.after · phase) ++ later.flatMap pipeline.eventsOf, ?_⟩
      rw [schedule, hphases]
      simp [eventsOf]
    refine (List.prefix_of_prefix_length_le hprefix hexpected (Nat.le_of_eq ?_)).eq_of_length ?_
    all_goals
      rw [List.length_map]
      refine hlength.trans ?_
      simp [Nat.add_assoc]
  result := by
    rcases hcourse : ((pipeline.course machine task).run start).1.result with error | run
    · exact ⟨error, rfl⟩
    · rw [hcourse] at hresult
      cases hresult

/-- When a course fails, its last event has failed, from where the ones before have ended. -/
theorem exists_performAll_eq_error {events done : List Event} {event : Event} {run : Run}
    {start : Workspace} {error : RunError}
    (htrail : ((performAll events run).run start).1.trail.map Prod.fst = done ++ [event])
    (hresult : ((performAll events run).run start).1.result = .error error) :
    ∃ last, ((performAll done run).run start).1.result = .ok last ∧
      (event.perform last).exec ((performAll done run).run start).2 =
        (.error error, ((performAll events run).run start).2) := by
  obtain ⟨-, last, between, hdone, hfails⟩ := performAll_eq_error_iff.1 ⟨hresult, rfl, htrail⟩
  obtain ⟨hok, -, hbetween⟩ := performAll_of_succeed hdone
  exact ⟨last, hok, hbetween ▸ hfails⟩

end Pipeline

/-! ## What is assumed of commands and hooks -/

/-- The commands of a task leave its state alone: compilers change nothing but what is in the
directory of classes, and the command that exports the classpath leaves the cache and the baseline
as they are. -/
structure Task.Discreet (machine : Machine) (task : Task) (cwd : Location) : Prop where
  compiler : ∀ classpath source files location, ¬ target cwd task.paths.classesDir <+: location →
    (machine.run (task.session.command classpath source) cwd files).2.get? location =
      files.get? location
  exporter : ∀ command ∈ task.classpath.commands task.version, ∀ files,
    ∀ location ∈ task.stateAt cwd,
      (machine.run command cwd files).2.fileAt? location = files.fileAt? location

/-- From one workspace to another, the state of a task was not touched. -/
def Task.Untouched (task : Task) (start workspace : Workspace) : Prop :=
  workspace.cwd = start.cwd ∧ ∀ location ∈ task.stateAt start.cwd,
    workspace.files.fileAt? location = start.files.fileAt? location

/-- State that is untouched twice is untouched. -/
theorem Task.Untouched.trans {task : Task} {start between final : Workspace}
    (h : task.Untouched start between) (h' : task.Untouched between final) :
    task.Untouched start final := by
  obtain ⟨hcwd, hfiles⟩ := h
  obtain ⟨hcwd', hfiles'⟩ := h'
  rw [hcwd] at hcwd' hfiles'
  exact ⟨hcwd', fun location hmem => (hfiles' location hmem).trans (hfiles location hmem)⟩

/-- A hook leaves the task of a run and its state alone. -/
def Hook.Discreet (hook : Hook) (task : Task) : Prop :=
  ∀ call ∈ [hook.before, hook.after], ∀ phase run start next final,
    run.task = task → (call phase run).Yields start next final →
      next.task = task ∧ task.Untouched start final

/-- What is untouched before a hook is called is untouched afterwards. -/
theorem Hook.Discreet.untouched {hook : Hook} {task : Task} (h : hook.Discreet task)
    {call : String → Run → Action RunError Run} (hcall : call ∈ [hook.before, hook.after])
    {phase : String} {run next : Run} {start workspace final : Workspace}
    (hrun : run.task = task ∧ task.Untouched start workspace)
    (hyields : (call phase run).Yields workspace next final) :
    next.task = task ∧ task.Untouched start final := by
  obtain ⟨hnext, hfinal⟩ := h call hcall phase run workspace next final hrun.1 hyields
  exact ⟨hnext, hrun.2.trans hfinal⟩

/-! ## What phases do to the state -/

section Phases

variable {machine : Machine} {task : Task} {run : Run} {start : Workspace}
  (hpaths : ∃ given root, task.paths = PathsSection.resolve given root task.language)
  (houtside : ∀ location ∈ task.stateAt start.cwd,
    ¬ target start.cwd task.paths.classesDir <+: location)

/-- What leaves each file of the state alone leaves the state untouched. -/
theorem Task.keeps_untouched {ε α : Type} {action : Action ε α}
    (h : ∀ location ∈ task.stateAt start.cwd, ∀ content,
      action.Keeps (HoldsAt start.cwd location content)) :
    action.Keeps (task.Untouched start) := by
  rintro workspace ⟨hcwd, hfiles⟩
  refine ⟨(h _ (.inl rfl) _ workspace ⟨hcwd, rfl⟩).1, fun location hmem => ?_⟩
  exact (h location hmem _ workspace ⟨hcwd, hfiles location hmem⟩).2

include hpaths houtside in
/-- The phases before compiling leave the state untouched. -/
theorem Phase.keeps_untouched {phase : Phase}
    (hphase : phase ∈ [extract, filterBaseline, generate]) (htask : run.task = task) :
    (phase.perform run).Keeps (task.Untouched start) := by
  subst htask
  simp only [List.mem_cons, List.not_mem_nil, or_false] at hphase
  rcases hphase with rfl | rfl | rfl
  · exact fun workspace h => (exec_extract run workspace).symm ▸ h
  · exact fun workspace h => (exec_filterBaseline run workspace).symm ▸ h
  · refine Task.keeps_untouched fun location hmem content => keeps_generate_of_replaceUnits ?_
    exact keeps_replaceUnits_holdsAt (Task.extension_ne_of_mem_stateAt hpaths hmem)
      (houtside location hmem) fun _ => SourceUnit.wellNamed_of_mem_ofSnippets

/-- The phases before compiling do not change what a run is to do. -/
theorem Phase.task_eq_of_yields {phase : Phase} {next : Run} {workspace final : Workspace}
    (hphase : phase ∈ [extract, filterBaseline, generate])
    (h : (phase.perform run).Yields workspace next final) : next.task = run.task := by
  simp only [List.mem_cons, List.not_mem_nil, or_false] at hphase
  rcases hphase with rfl | rfl | rfl
  · obtain ⟨-, _, _, -, rfl⟩ := extract_perform_yields h
    rfl
  · obtain ⟨-, _, rfl⟩ := filterBaseline_perform_yields h
    exact task_leaveOut _ run
  · rw [(generate_perform_yields h).1]
    rfl

/-- A cache file is as it was, or is gone if it was to be removed. -/
def Task.LeavesCache (task : Task) (before after : Option ByteArray) : Prop :=
  after = before ∨ (task.cleanCache = true ∨ task.mode = .capture) ∧ after = none

/-- What an aborted run leaves of the state: the baseline as it was, and the cache as it was unless
it was to be removed. -/
def Task.Persisted (task : Task) (start workspace : Workspace) : Prop :=
  HoldsAt start.cwd (target start.cwd task.paths.baselineFile)
      (start.files.fileAt? (target start.cwd task.paths.baselineFile)) workspace ∧
    workspace.cwd = start.cwd ∧
      task.LeavesCache (start.files.fileAt? (target start.cwd task.paths.cacheFile))
        (workspace.files.fileAt? (target start.cwd task.paths.cacheFile))

/-- State that is untouched is left as by an aborted run. -/
theorem Task.Untouched.persisted {workspace : Workspace} (h : task.Untouched start workspace) :
    task.Persisted start workspace :=
  ⟨⟨h.1, h.2 _ (.inr rfl)⟩, h.1, .inl (h.2 _ (.inl rfl))⟩

/-- What leaves each file of the state alone leaves it as an aborted run does. -/
theorem Task.keeps_persisted {ε α : Type} {action : Action ε α}
    (h : ∀ location ∈ task.stateAt start.cwd, ∀ content,
      action.Keeps (HoldsAt start.cwd location content)) :
    action.Keeps (task.Persisted start) :=
  (h _ (.inr rfl) _).and (Keeps.of_holdsAt (h _ (.inl rfl)) _)

include hpaths in
/-- Forgetting the cache removes it at most, and only if it is to be removed. -/
theorem Phase.keeps_forgetCache_persisted : (forgetCache task).Keeps (task.Persisted start) := by
  have hne : target start.cwd task.paths.baselineFile ≠ target start.cwd task.paths.cacheFile := by
    obtain ⟨given, root, hpaths⟩ := hpaths
    rw [hpaths]
    exact (PathsSection.target_cacheFile_ne given root task.language start.cwd).symm
  refine .forgetCache fun hforget => Keeps.and ?_ ?_
  · refine Keeps.holdsAt fun origin horigin => keeps_removeFileIfPresent ?_
    rwa [horigin]
  · exact keeps_removeFileIfPresent_of_none _ (.inr ⟨hforget, rfl⟩)

include houtside in
/-- A session leaves the state alone if its commands do. -/
theorem Task.Discreet.keeps_session (hdiscreet : task.Discreet machine start.cwd)
    (units : List SourceUnit) :
    (task.session.compile machine task.version units).Keeps (task.Persisted start) := by
  refine Task.keeps_persisted fun location hmem content =>
    Compiler.Session.keeps_compile (fun classpath source workspace h => ?_)
      (fun command hcommand workspace h => ?_)
      (Keeps.holdsAt fun _ _ => keeps_makeDirectories _ _) units
  · exact h.launch <| Tree.fileAt?_congr <|
      hdiscreet.compiler classpath source workspace.files location (houtside location hmem)
  · exact h.launch (hdiscreet.exporter command hcommand workspace.files location hmem)

include hpaths houtside in
/-- When compiling fails, the baseline is as it was, and so is the cache, unless it was to be
removed. What is stored is stored last. -/
theorem Phase.keepsFailing_compile (htask : run.task = task)
    (hdiscreet : task.Discreet machine start.cwd) :
    ((compile machine).perform run).KeepsFailing (task.Persisted start) := by
  subst htask
  refine .bind (Keeps.describing _ (keeps_forgetCache_persisted hpaths)) fun _ => ?_
  refine .bind (fun _ h => h) fun workspace => ?_
  refine .bind (Keeps.describing _ (hdiscreet.keeps_session houtside _)) fun fresh => ?_
  refine .bind_pure (.describing _ (.bind ?_ fun _ => .replaceFiles))
  exact Task.keeps_persisted fun _ _ _ => Keeps.holdsAt fun _ _ => keeps_makeParents _

end Phases

/-! ## Aborted runs -/

/-- What belongs to a phase before compiling leaves the task and its state alone, if hooks do. -/
private theorem Pipeline.untouched_of_mem_eventsOf {pipeline : Pipeline} {task : Task}
    {start workspace final : Workspace} {phase : Phase} {event : Event} {run next : Run}
    (hpaths : ∃ given root, task.paths = PathsSection.resolve given root task.language)
    (houtside : ∀ location ∈ task.stateAt start.cwd,
      ¬ target start.cwd task.paths.classesDir <+: location)
    (hhooks : ∀ hook ∈ pipeline.hooks, hook.Discreet task)
    (hphase : phase ∈ [extract, filterBaseline, generate])
    (hevent : event ∈ pipeline.eventsOf phase)
    (hrun : run.task = task ∧ task.Untouched start workspace)
    (h : (event.perform run).Yields workspace next final) :
    next.task = task ∧ task.Untouched start final := by
  rcases List.mem_append.1 hevent with hbefore | hlater
  · obtain ⟨hook, hhook, rfl⟩ := List.mem_map.1 hbefore
    exact (hhooks hook hhook).untouched (by simp) hrun h
  rcases List.mem_cons.1 hlater with rfl | hafter
  · exact ⟨(Phase.task_eq_of_yields hphase h).trans hrun.1,
      (Phase.keeps_untouched hpaths houtside hphase hrun.1).of_yields h hrun.2⟩
  · obtain ⟨hook, hhook, rfl⟩ := List.mem_map.1 hafter
    exact (hhooks hook hhook).untouched (by simp) hrun h

/-- Until a phase works, the state is untouched, if the phases before it come before compiling. -/
private theorem Pipeline.untouched_of_earlier {pipeline : Pipeline} {task : Task}
    {start : Workspace} {earlier : List Phase} {phase : Phase} {last : Run}
    (hpaths : ∃ given root, task.paths = PathsSection.resolve given root task.language)
    (houtside : ∀ location ∈ task.stateAt start.cwd,
      ¬ target start.cwd task.paths.classesDir <+: location)
    (hhooks : ∀ hook ∈ pipeline.hooks, hook.Discreet task)
    (hearlier : ∀ other ∈ earlier, other ∈ [extract, filterBaseline, generate])
    (hlast : ((performAll (earlier.flatMap pipeline.eventsOf ++
      pipeline.hooks.map (.before · phase)) { task }).run start).1.result = .ok last) :
    last.task = task ∧ task.Untouched start ((performAll (earlier.flatMap pipeline.eventsOf ++
      pipeline.hooks.map (.before · phase)) { task }).run start).2 := by
  refine @Pipeline.holds_performAll_of_ok (fun run workspace => run.task = task ∧
    task.Untouched start workspace) _ ?_ _ _ _ ⟨rfl, rfl, fun _ _ => rfl⟩ hlast
  intro event hevent run workspace next final hrun h
  rcases List.mem_append.1 hevent with hmem | hmem
  · obtain ⟨other, hother, hmem⟩ := List.mem_flatMap.1 hmem
    exact untouched_of_mem_eventsOf hpaths houtside hhooks (hearlier other hother) hmem hrun h
  · obtain ⟨hook, hhook, rfl⟩ := List.mem_map.1 hmem
    exact (hhooks hook hhook).untouched List.mem_cons_self hrun h

/-- A run that stops in a phase before failures are captured leaves the baseline as it was, and the
cache as it was, or no cache if the run was to forget it or to capture failures. -/
theorem state_of_aborted_run {pipeline : Pipeline} {machine : Machine} {task : Task}
    {start : Workspace}
    (hpaths : ∃ given root, task.paths = PathsSection.resolve given root task.language)
    (houtside : ∀ location ∈ task.stateAt start.cwd,
      ¬ target start.cwd task.paths.classesDir <+: location)
    (hdiscreet : task.Discreet machine start.cwd)
    (hhooks : ∀ hook ∈ pipeline.hooks, hook.Discreet task)
    {earlier later : List Phase} {phase : Phase}
    (hphases : [extract, filterBaseline, generate, compile machine] = earlier ++ phase :: later)
    (hstops : ((pipeline.course machine task).run start).1.StopsIn pipeline earlier phase) :
    let final := ((pipeline.course machine task).run start).2
    final.files.fileAt? (target start.cwd task.paths.baselineFile) =
        start.files.fileAt? (target start.cwd task.paths.baselineFile) ∧
      (final.files.fileAt? (target start.cwd task.paths.cacheFile) =
          start.files.fileAt? (target start.cwd task.paths.cacheFile) ∨
        (task.cleanCache = true ∨ task.mode = .capture) ∧
          final.files.fileAt? (target start.cwd task.paths.cacheFile) = none) := by
  obtain ⟨error, hresult⟩ := hstops.result
  obtain ⟨last, hlast, hfail⟩ := Pipeline.exists_performAll_eq_error hstops.trail hresult
  -- until the phase fails, the state is untouched
  have hearlier : ∀ other ∈ earlier, other ∈ [extract, filterBaseline, generate] := by
    intro other hother
    have hfront := congrArg List.dropLast hphases
    rw [List.dropLast_append_of_ne_nil (List.cons_ne_nil _ _)] at hfront
    exact (show [extract, filterBaseline, generate] = _ from hfront) ▸
      List.mem_append_left _ hother
  obtain ⟨htask, huntouched⟩ :=
    Pipeline.untouched_of_earlier hpaths houtside hhooks hearlier hlast
  have hpersisted : task.Persisted start ((pipeline.course machine task).run start).2 := by
    have hphase : phase ∈ [extract, filterBaseline, generate, compile machine] :=
      hphases ▸ List.mem_append_right _ List.mem_cons_self
    rcases List.mem_append.1 (show phase ∈ [extract, filterBaseline, generate] ++ [_] from hphase)
      with hsilent | hcompile
    · have hkeeps := (Phase.keeps_untouched hpaths houtside hsilent htask).keepsFailing
      exact (hkeeps _ error _ huntouched hfail).persisted
    · obtain rfl := List.mem_singleton.1 hcompile
      exact Phase.keepsFailing_compile hpaths houtside htask hdiscreet _ error _
        huntouched.persisted hfail
  exact ⟨hpersisted.1.2, hpersisted.2.2⟩

/-! ## Runs that stop while compiling -/

namespace Abort

open History

set_option maxRecDepth 100000 in
/-- The state of the sample task lies outside its directory of classes. -/
private theorem outside_sampleTask : ∀ location ∈ sampleTask.stateAt [],
    ¬ target [] sampleTask.paths.classesDir <+: location := by
  rintro location (rfl | rfl) <;> decide +kernel

/-- The workspace of the sample task without the source of the base type, and with state that cannot
be read. -/
def unfounded : Workspace where
  files := ⟨[(["validation"], .directory), (["validation", "baselines"], .directory),
    (["validation", "baselines", "baseline-java.json"], .file "?".toUTF8),
    (["validation", "cache"], .directory),
    (["validation", "cache", "snippet-java-cache.json"], .file "?".toUTF8)] ++
    sampleStart.files.entries.filter fun entry => entry.1 ≠ ["B.java"]⟩

set_option maxRecDepth 100000 in
/-- The sample task stops there while it compiles. -/
theorem sampleCourse_unfounded :
    (sampleCourse unfounded).1.trail.length = 4 ∧
      (sampleCourse unfounded).1.result.toOption.isNone = true := by
  decide +kernel

/-- The sample task with a command that exports its classpath. -/
def exportingTask : Task :=
  { sampleTask with classpath := ⟨some ⟨["export"], "", none⟩, []⟩ }

/-- A machine whose compilers do nothing. The command that exports the classpath overwrites a file,
and fails. -/
def overwriting (location : Location) : Machine where
  run command _ files :=
    if command.program = "export" then
      (some ⟨.code 1, [], []⟩, files.set location (.file "!".toUTF8))
    else (some ⟨.code 0, [], []⟩, files)

/-- The course of the exporting task when its cache is overwritten. -/
def exportingCourse : Course × Workspace :=
  (({} : Pipeline).course (overwriting (target [] exportingTask.paths.cacheFile))
    exportingTask).run unfounded

set_option maxRecDepth 100000 in
/-- The task stops while it compiles, with its cache overwritten. -/
theorem exportingCourse_stored :
    exportingCourse.1.trail.length = 4 ∧ exportingCourse.1.result.toOption.isNone = true ∧
      exportingCourse.2.files.fileAt? (target [] exportingTask.paths.cacheFile) =
        some "!".toUTF8 := by
  decide +kernel

/-- A pipeline with a hook that writes the cache file of the sample task before every phase. -/
def hooked : Pipeline where
  hooks := [{
    name := "overwrite"
    before := fun _ run => do
      (writeText sampleTask.paths.cacheFile "!").describing RunError.files
      return run }]

/-- The course of the sample task with this hook. -/
def hookedCourse : Course × Workspace :=
  (hooked.course (.reading objection) sampleTask).run unfounded

set_option maxRecDepth 100000 in
/-- The task stops while it compiles, with its cache overwritten. -/
theorem hookedCourse_stored :
    hookedCourse.1.trail.length = 11 ∧ hookedCourse.1.result.toOption.isNone = true ∧
      hookedCourse.2.files.fileAt? (target [] sampleTask.paths.cacheFile) =
        some "!".toUTF8 := by
  decide +kernel

end Abort

open Abort

set_option maxRecDepth 100000 in
/-- The sample task, when it stops because the source of the base type is missing, leaves the
baseline and the cache as they were. -/
theorem state_of_aborted_run_sampleTask :
    (History.sampleCourse unfounded).1.StopsIn {} [extract, filterBaseline, generate]
        (compile (.reading History.objection)) ∧
      (History.sampleCourse unfounded).2.files.fileAt?
        (target [] History.sampleTask.paths.baselineFile) = some "?".toUTF8 ∧
      (History.sampleCourse unfounded).2.files.fileAt?
        (target [] History.sampleTask.paths.cacheFile) = some "?".toUTF8 := by
  obtain ⟨hlength, hresult⟩ := sampleCourse_unfounded
  have hstops := @Pipeline.stopsIn_of_length {} _ History.sampleTask unfounded
    [extract, filterBaseline, generate] _ _ rfl hlength hresult
  have hdiscreet : History.sampleTask.Discreet (.reading History.objection) [] := by
    refine ⟨fun _ _ _ _ _ => by rw [Machine.run_reading], fun command _ files location _ => ?_⟩
    exact Machine.spares_reading location command [] files
  obtain ⟨hbaseline, hcache⟩ := @state_of_aborted_run {} _ History.sampleTask unfounded
    ⟨{}, "", rfl⟩ outside_sampleTask hdiscreet (by simp) _ [] _ rfl hstops
  refine ⟨hstops, hbaseline.trans (by decide +kernel), ?_⟩
  rcases hcache with hkept | ⟨hforget, -⟩
  · exact hkept.trans (by decide +kernel)
  · exact absurd hforget (by decide)

set_option maxRecDepth 100000 in
/-- A normal run that stops while it compiles can leave a new cache: when the command that exports
the classpath writes it and then fails, and when a hook writes it. Compilers write nothing there,
and the state lies outside the directory of classes. -/
theorem cache_written_by_others :
    (∀ location ∈ History.sampleTask.stateAt [],
        ¬ target [] History.sampleTask.paths.classesDir <+: location) ∧
      unfounded.files.fileAt? (target [] History.sampleTask.paths.cacheFile) = some "?".toUTF8 ∧
      (∀ classpath source cwd files,
        ((overwriting (target [] exportingTask.paths.cacheFile)).run
          (exportingTask.session.command classpath source) cwd files).2 = files) ∧
      (exportingTask.mode = .normal ∧ exportingTask.cleanCache = false ∧
        exportingTask.paths = History.sampleTask.paths ∧
        exportingCourse.1.StopsIn {} [extract, filterBaseline, generate]
          (compile (overwriting (target [] exportingTask.paths.cacheFile))) ∧
        exportingCourse.2.files.fileAt? (target [] exportingTask.paths.cacheFile) =
          some "!".toUTF8) ∧
      History.sampleTask.mode = .normal ∧ History.sampleTask.cleanCache = false ∧
        hookedCourse.1.StopsIn hooked [extract, filterBaseline, generate]
          (compile (.reading History.objection)) ∧
        hookedCourse.2.files.fileAt? (target [] History.sampleTask.paths.cacheFile) =
          some "!".toUTF8 := by
  obtain ⟨hlength, hresult, hstored⟩ := exportingCourse_stored
  obtain ⟨hlength', hresult', hstored'⟩ := hookedCourse_stored
  have hstops := @Pipeline.stopsIn_of_length {} _ exportingTask unfounded
    [extract, filterBaseline, generate] _ _ rfl hlength hresult
  have hstops' : hookedCourse.1.StopsIn hooked [extract, filterBaseline, generate]
      (compile (.reading History.objection)) := by
    rw [hookedCourse] at hlength' hresult' ⊢
    exact Pipeline.stopsIn_of_length rfl hlength' hresult'
  exact ⟨outside_sampleTask, by decide +kernel, fun _ _ _ _ => rfl,
    ⟨rfl, rfl, rfl, hstops, hstored⟩, rfl, rfl, hstops', hstored'⟩

end SnippetCheck
