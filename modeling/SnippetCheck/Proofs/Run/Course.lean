import SnippetCheck.Proofs.Run.Compile
import SnippetCheck.Proofs.Run.Generate
import SnippetCheck.Run.Pipeline

/-!
# The Course Of A Run

A run without hooks and further phases goes through the five phases in their order. One that
succeeds has performed all of them (`Pipeline.run_yields`): from the snippets that the baseline does
not accept come the units (`readyRun`), which are generated and compiled. Whatever every event of a
course keeps from where it starts holds at the end, wherever the course stops
(`Pipeline.holds_performAll`).
-/

namespace SnippetCheck

open Action

namespace Phase

/-- The snippets that are considered: those whose failure is not accepted. -/
def considered (task : Task) (workspace : Workspace) (snippets : List Snippet) : List Snippet :=
  snippets.filter fun snippet => !(loadedBaseline task workspace).accepts snippet

/-- The units of the snippets that are considered. -/
def consideredUnits (task : Task) (workspace : Workspace) (snippets : List Snippet) :
    List SourceUnit :=
  SourceUnit.ofSnippets task.settings (considered task workspace snippets)

/-- The state of a run that is about to compile, if it has found these snippets. -/
def readyRun (task : Task) (workspace : Workspace) (snippets : List Snippet)
    (diagnostics : List Diagnostic) : Run where
  task := task
  snippets := considered task workspace snippets
  skipped := snippets.length - (considered task workspace snippets).length
  units := consideredUnits task workspace snippets
  diagnostics := diagnostics

/-- Leaving out accepted failures filters the snippets and counts the others. -/
theorem leaveOut_eq {run : Run} (hskipped : run.skipped = 0) (baseline : Baseline) :
    leaveOut baseline run = { run with
      snippets := run.snippets.filter fun snippet => !baseline.accepts snippet
      skipped := run.snippets.length -
        (run.snippets.filter fun snippet => !baseline.accepts snippet).length } := by
  unfold leaveOut
  split
  next hempty =>
    have hentries : baseline.entries = [] := List.isEmpty_iff.1 hempty
    have hall : (run.snippets.filter fun snippet => !baseline.accepts snippet) = run.snippets := by
      simp [Baseline.accepts, hentries]
    rw [hall, Nat.sub_self, ← hskipped]
  next => rfl

end Phase

namespace Pipeline

open Phase

/-- Without hooks and further phases, what happens is the work of the five phases. -/
theorem schedule_default (machine : Machine) :
    ({} : Pipeline).schedule machine = [.work extract, .work filterBaseline, .work generate,
      .work (compile machine), .work captureBaseline] := rfl

/-- The first event of several happens from the start, and the others if it does not fail. -/
theorem run_performAll_cons (event : Event) (events : List Event) (run : Run)
    (start : Workspace) :
    (performAll (event :: events) run).run start =
      match (event.perform run).exec start with
      | (.error error, final) => (⟨[(event, run)], .error error⟩, final)
      | (.ok next, between) =>
        let rest := (performAll events next).run between
        (⟨(event, run) :: rest.1.trail, rest.1.result⟩, rest.2) := by
  rw [performAll, StateT.run_bind]
  rcases hexec : (event.perform run).exec start with ⟨error | next, between⟩
  all_goals
    change (ExceptT.run (event.perform run)).run start = _ at hexec
    rw [hexec]
    rfl

/-- Whatever the first event leaves when it fails, and the others leave when it does not, is left
at the end. Of every event that happens, `given` may be relied on. -/
theorem holds_performAll_cons {event : Event} {events : List Event} {run : Run}
    {start : Workspace} {holds : Workspace → Prop} {given : Event × Run → Prop}
    (hgiven : ∀ entry ∈ ((performAll (event :: events) run).run start).1.trail, given entry)
    (hfirst : given (event, run) → holds ((event.perform run).exec start).2)
    (hrest : ∀ next between, (event.perform run).Yields start next between →
      given (event, run) → holds between →
      (∀ entry ∈ ((performAll events next).run between).1.trail, given entry) →
      holds ((performAll events next).run between).2) :
    holds ((performAll (event :: events) run).run start).2 := by
  rw [run_performAll_cons] at hgiven ⊢
  rcases hexec : (event.perform run).exec start with ⟨error | next, between⟩
  all_goals
    rw [hexec] at hgiven hfirst
    have hentry := hgiven (event, run) List.mem_cons_self
  · exact hfirst hentry
  · exact hrest next between hexec hentry (hfirst hentry) fun entry hmem =>
      hgiven entry (List.mem_cons_of_mem (event, run) hmem)

/-- Whatever holds of the result and the workspace when the first event fails, and when the others
end after it has succeeded, holds at the end. -/
theorem ends_performAll_cons {event : Event} {events : List Event} {run : Run} {start : Workspace}
    {ends : Except RunError Run → Workspace → Prop}
    (hfail : ∀ error final, (event.perform run).exec start = (.error error, final) →
      ends (.error error) final)
    (hrest : ∀ next between, (event.perform run).Yields start next between →
      ends ((performAll events next).run between).1.result
        ((performAll events next).run between).2) :
    ends ((performAll (event :: events) run).run start).1.result
      ((performAll (event :: events) run).run start).2 := by
  rw [run_performAll_cons]
  rcases hexec : (event.perform run).exec start with ⟨error | next, between⟩
  · exact hfail error between hexec
  · exact hrest next between hexec

/-- What holds of the first of several events, and of the others when it succeeds, holds of all that
happen. -/
theorem forall_mem_trail_performAll_cons {event : Event} {events : List Event} {run : Run}
    {start : Workspace} {holds : Event × Run → Prop} (hfirst : holds (event, run))
    (hrest : ∀ next between, (event.perform run).Yields start next between →
      ∀ entry ∈ ((performAll events next).run between).1.trail, holds entry) :
    ∀ entry ∈ ((performAll (event :: events) run).run start).1.trail, holds entry := by
  rw [run_performAll_cons]
  rcases hexec : (event.perform run).exec start with ⟨error | next, between⟩
  · simpa using hfirst
  · intro entry hentry
    rcases List.mem_cons.1 hentry with rfl | hlater
    · exact hfirst
    · exact hrest next between hexec entry hlater

/-- When several events succeed, the first one does, and so do the others from where it ends. -/
theorem exists_performAll_eq_ok {event : Event} {events : List Event} {run last : Run}
    {start : Workspace}
    (h : ((performAll (event :: events) run).run start).1.result = .ok last) :
    ∃ next between, (event.perform run).Yields start next between ∧
      ((performAll events next).run between).1.result = .ok last ∧
      ((performAll events next).run between).2 =
        ((performAll (event :: events) run).run start).2 ∧
      ((performAll (event :: events) run).run start).1.trail =
        (event, run) :: ((performAll events next).run between).1.trail := by
  rw [run_performAll_cons] at h ⊢
  rcases hexec : (event.perform run).exec start with ⟨error | next, between⟩
  · rw [hexec] at h
    cases h
  · rw [hexec] at h
    exact ⟨next, between, hexec, h, rfl, rfl⟩

/-- A run ends with the result of its course, where that ends. -/
theorem exec_run (pipeline : Pipeline) (machine : Machine) (task : Task) (start : Workspace) :
    (pipeline.run machine task).exec start =
      (((pipeline.course machine task).run start).1.result,
        ((pipeline.course machine task).run start).2) := by
  rw [Pipeline.run, exec_bind]
  change exec (liftExcept ((pipeline.course machine task).run start).1.result :
    Action RunError Run) _ = _
  rw [exec_liftExcept]
  rfl

/-- A run succeeds when its course does. -/
theorem run_yields_iff {pipeline : Pipeline} {machine : Machine} {task : Task} {run : Run}
    {start final : Workspace} :
    (pipeline.run machine task).Yields start run final ↔
      ((pipeline.course machine task).run start).1.result = .ok run ∧
        ((pipeline.course machine task).run start).2 = final := by
  rw [Yields, exec_run, Prod.mk.injEq]

/-- A run succeeds if its course has a result of which something can be told. -/
theorem exists_run_yields {pipeline : Pipeline} {machine : Machine} {task : Task}
    {start : Workspace} {α : Type} {tell : Run → α} {told : α}
    (h : ((pipeline.course machine task).run start).1.result.toOption.map tell = some told) :
    ∃ run, (pipeline.run machine task).Yields start run
      ((pipeline.course machine task).run start).2 ∧ tell run = told := by
  obtain ⟨run, hrun, htell⟩ := Option.map_eq_some_iff.1 h
  refine ⟨run, run_yields_iff.2 ⟨?_, rfl⟩, htell⟩
  cases hresult : ((pipeline.course machine task).run start).1.result with
  | error error =>
    rw [hresult] at hrun
    cases hrun
  | ok other =>
    rw [hresult] at hrun
    exact congrArg _ (Option.some.inj hrun)

/-- The state that a run is in once it has extracted snippets and left out those whose failure is
accepted, and generated the units of the rest, is `readyRun`. -/
theorem exists_readyRun_eq {task : Task} {extracted filtered generated : Run}
    {start first second third : Workspace}
    (hextract : (Phase.extract.perform { task }).Yields start extracted first)
    (hfilter : (filterBaseline.perform extracted).Yields first filtered second)
    (hgenerate : (generate.perform filtered).Yields second generated third) :
    ∃ snippets diagnostics, task.extraction.run start = .ok snippets ∧
      generated = readyRun task start snippets diagnostics ∧
      (replaceUnits task.paths task.language generated.units).Yields start () third := by
  obtain ⟨rfl, snippets, diagnostics, hsnippets, rfl⟩ := extract_perform_yields hextract
  obtain ⟨rfl, diagnostics, rfl⟩ := filterBaseline_perform_yields hfilter
  obtain ⟨rfl, hreplace⟩ := generate_perform_yields hgenerate
  rw [leaveOut_eq rfl] at hreplace ⊢
  exact ⟨snippets, _, hsnippets, rfl, hreplace⟩

/-- A run that succeeds has extracted snippets, generated the units of those that are considered,
compiled them and, if failures are captured, stored these. -/
theorem run_yields {machine : Machine} {task : Task} {run : Run} {start final : Workspace}
    (h : (({} : Pipeline).run machine task).Yields start run final) :
    ∃ snippets diagnostics generated compiled compiledRun,
      task.extraction.run start = .ok snippets ∧
      (replaceUnits task.paths task.language
        (readyRun task start snippets diagnostics).units).Yields start () generated ∧
      ((compile machine).perform (readyRun task start snippets diagnostics)).Yields
        generated compiledRun compiled ∧
      (captureBaseline.perform compiledRun).Yields compiled run final ∧
      (.work (compile machine), readyRun task start snippets diagnostics) ∈
        ((({} : Pipeline).course machine task).run start).1.trail := by
  obtain ⟨hresult, rfl⟩ := run_yields_iff.1 h
  rw [course, schedule_default] at hresult ⊢
  -- take the five events one after the other, each from where the last one ended
  obtain ⟨extracted, _, hextract, hresult, hfinal₁, htrail₁⟩ := exists_performAll_eq_ok hresult
  obtain ⟨filtered, _, hfilter, hresult, hfinal₂, htrail₂⟩ := exists_performAll_eq_ok hresult
  obtain ⟨generated, _, hgenerate, hresult, hfinal₃, htrail₃⟩ := exists_performAll_eq_ok hresult
  obtain ⟨snippets, diagnostics, hsnippets, rfl, hreplace⟩ :=
    exists_readyRun_eq hextract hfilter hgenerate
  obtain ⟨compiledRun, _, hcompile, hresult, hfinal₄, htrail₄⟩ := exists_performAll_eq_ok hresult
  obtain ⟨last, _, hcapture, hresult, hfinal₅, -⟩ := exists_performAll_eq_ok hresult
  obtain rfl : last = run := Except.ok.inj hresult
  have hfinal := hfinal₅.trans (hfinal₄.trans (hfinal₃.trans (hfinal₂.trans hfinal₁)))
  refine ⟨snippets, diagnostics, _, _, compiledRun, hsnippets, hreplace, hcompile, ?_, ?_⟩
  · rw [← hfinal]
    exact hcapture
  · rw [htrail₁, htrail₂, htrail₃, htrail₄]
    simp

/-- Whenever something happens in a run, its units are those of the snippets that are considered,
unless there are none yet. -/
theorem units_of_mem_trail {machine : Machine} {task : Task} {start : Workspace} :
    ∀ entry ∈ ((({} : Pipeline).course machine task).run start).1.trail,
      entry.2.units = [] ∨ ∃ snippets, task.extraction.run start = .ok snippets ∧
        entry.2.units = consideredUnits task start snippets := by
  rw [course, schedule_default]
  refine forall_mem_trail_performAll_cons (.inl rfl) fun extracted _ hextract => ?_
  refine forall_mem_trail_performAll_cons (.inl ?_) fun filtered _ hfilter => ?_
  · obtain ⟨-, _, _, -, rfl⟩ := extract_perform_yields hextract
    rfl
  refine forall_mem_trail_performAll_cons (.inl ?_) fun generated _ hgenerate => ?_
  · obtain ⟨-, _, _, -, rfl⟩ := extract_perform_yields hextract
    obtain ⟨-, _, rfl⟩ := filterBaseline_perform_yields hfilter
    rw [leaveOut_eq rfl]
  -- from here on, the units are those that were generated
  obtain ⟨snippets, _, hsnippets, rfl, -⟩ := exists_readyRun_eq hextract hfilter hgenerate
  refine forall_mem_trail_performAll_cons (.inr ⟨snippets, hsnippets, rfl⟩)
    fun compiled _ hcompile => ?_
  obtain ⟨_, _, _, _, -, -, -, rfl⟩ := compile_perform_yields hcompile
  refine forall_mem_trail_performAll_cons (.inr ⟨snippets, hsnippets, rfl⟩) fun _ _ _ => ?_
  exact fun _ hentry => nomatch hentry

end Pipeline

end SnippetCheck
