import SnippetCheck.Proofs.Run.Course

/-!
# What Happens In A Run

A run is a loop over phases, each with a loop over the hooks before and after it
(`Pipeline.performPhases`). What happens in it is fixed by the schedule, in which these loops are
laid out, up to the first event that fails. Hooks and further phases are arbitrary actions here:
they may fail, and they may change the state and the workspace as they like, also to remember what
they have seen.

## Main definitions

* `Succeed`: events that succeed one after the other, each from where the one before it ends;
* `FailsAt`: the first of several events that fails.

## Main results

* `Pipeline.run_eq_performPhases`: a run is the loop over its phases;
* `Pipeline.performAll_cases`: all events succeed and happen, or those up to the first that fails;
* `Pipeline.events_of_course`: what happens in a run is the schedule up to its first event that
  fails, and what comes of the run is what that event fails with.
-/

namespace SnippetCheck

open Action

/-- Events that succeed one after the other, each from the state and the workspace that the one
before it has left. -/
inductive Succeed : List Event → Run → Workspace → Run → Workspace → Prop where
  /-- Nothing happens. -/
  | nil {run : Run} {start : Workspace} : Succeed [] run start run start
  /-- The first event succeeds, and the others from where it ends. -/
  | cons {event : Event} {events : List Event} {run next last : Run}
      {start between final : Workspace} (h : (event.perform run).Yields start next between)
      (hrest : Succeed events next between last final) :
      Succeed (event :: events) run start last final

/-- The first of several events that fails: those before it succeed, and it fails from where they
end. -/
structure FailsAt (events : List Event) (run : Run) (start : Workspace) (done : List Event)
    (event : Event) (error : RunError) (final : Workspace) : Prop where
  /-- The event is the one behind those that are done. -/
  exists_later : ∃ later, events = done ++ event :: later
  /-- It is reached, and fails there. -/
  exists_reached : ∃ reached between, Succeed done run start reached between ∧
    (event.perform reached).exec between = (.error error, final)

namespace Pipeline

/-! ## Loops over phases and hooks -/

/-- Perform a phase, with the calls of the hooks before and after it. -/
def performPhase (pipeline : Pipeline) (run : Run) (phase : Phase) : Action RunError Run := do
  let run ← pipeline.hooks.foldlM (fun run hook => hook.before phase.name run) run
  let run ← phase.perform run
  pipeline.hooks.foldlM (fun run hook => hook.after phase.name run) run

/-- Carry out a task, phase by phase. -/
def performPhases (pipeline : Pipeline) (machine : Machine) (task : Task) : Action RunError Run :=
  (Phase.all machine ++ pipeline.further).foldlM pipeline.performPhase { task }

/-- Perform events one after the other. -/
private def performEach (events : List Event) (run : Run) : Action RunError Run :=
  events.foldlM (fun run event => event.perform run) run

/-- A phase between calls of hooks is the events around it, one after the other. -/
private theorem performEach_eventsOf (pipeline : Pipeline) (run : Run) (phase : Phase) :
    performEach (pipeline.eventsOf phase) run = pipeline.performPhase run phase := by
  simp only [performEach, eventsOf, performPhase, List.foldlM_append, List.foldlM_cons,
    List.foldlM_map]
  rfl

/-- A loop over phases is the events around them, one after the other. -/
private theorem performEach_flatMap (pipeline : Pipeline) (phases : List Phase) (run : Run) :
    performEach (phases.flatMap pipeline.eventsOf) run =
      phases.foldlM pipeline.performPhase run := by
  induction phases generalizing run with
  | nil => rfl
  | cons phase phases ih =>
    rw [List.flatMap_cons, performEach, List.foldlM_append, List.foldlM_cons,
      ← performEach_eventsOf]
    exact bind_congr fun next => ih next

/-- A course ends as its events do, one after the other. -/
private theorem exec_performEach (events : List Event) (run : Run) (start : Workspace) :
    (performEach events run).exec start =
      (((performAll events run).run start).1.result, ((performAll events run).run start).2) := by
  induction events generalizing run start with
  | nil => rfl
  | cons event events ih =>
    rw [performEach, List.foldlM_cons, exec_bind, run_performAll_cons]
    rcases (event.perform run).exec start with ⟨error | next, between⟩
    · rfl
    · exact ih next between

/-- A run is the loop over its phases. -/
theorem run_eq_performPhases (pipeline : Pipeline) (machine : Machine) (task : Task) :
    pipeline.run machine task = pipeline.performPhases machine task := by
  have hexec (start : Workspace) : (pipeline.run machine task).exec start =
      (pipeline.performPhases machine task).exec start := by
    rw [exec_run, performPhases, ← performEach_flatMap, exec_performEach]
    rfl
  exact funext hexec

/-! ## The first event that fails -/

/-- Either all events succeed, and all of them happen, or those happen up to the first one that
fails. -/
theorem performAll_cases (events : List Event) (run : Run) (start : Workspace) :
    (∃ last, ((performAll events run).run start).1.result = .ok last ∧
      ((performAll events run).run start).1.trail.map Prod.fst = events ∧
      Succeed events run start last ((performAll events run).run start).2) ∨
    ∃ done event error, ((performAll events run).run start).1.result = .error error ∧
      ((performAll events run).run start).1.trail.map Prod.fst = done ++ [event] ∧
      FailsAt events run start done event error ((performAll events run).run start).2 := by
  -- the others start from where the first event ends, so its state and its workspace vary
  induction events generalizing run start with
  | nil => exact .inl ⟨run, rfl, rfl, .nil⟩
  | cons event events ih =>
    rw [run_performAll_cons]
    rcases hexec : (event.perform run).exec start with ⟨error | next, between⟩
    · exact .inr ⟨[], event, error, rfl, rfl, ⟨events, rfl⟩, run, start, .nil, hexec⟩
    · rcases ih next between with ⟨last, hresult, htrail, hsucceed⟩ |
        ⟨done, failing, error, hresult, htrail, ⟨later, hlater⟩, reached, left, hdone, hfails⟩
      · exact .inl ⟨last, hresult, congrArg (event :: ·) htrail, .cons hexec hsucceed⟩
      · exact .inr ⟨event :: done, failing, error, hresult, congrArg (event :: ·) htrail,
          ⟨later, congrArg (event :: ·) hlater⟩, reached, left, .cons hexec hdone, hfails⟩

/-- Events that succeed happen first, and then those behind them, from where they have ended. -/
theorem exists_run_performAll_append {first : List Event} {run reached : Run}
    {start between : Workspace} (h : Succeed first run start reached between) :
    ∃ trail, trail.map Prod.fst = first ∧ ∀ later,
      (performAll (first ++ later) run).run start =
        (⟨trail ++ ((performAll later reached).run between).1.trail,
          ((performAll later reached).run between).1.result⟩,
          ((performAll later reached).run between).2) := by
  -- what has happened does not depend on what is still to happen, so the trail comes first
  induction h with
  | nil => exact ⟨[], rfl, fun later => rfl⟩
  | @cons event events run next last start between final h _ ih =>
    obtain ⟨trail, htrail, hrun⟩ := ih
    refine ⟨(event, run) :: trail, congrArg (event :: ·) htrail, fun later => ?_⟩
    have hexec : (event.perform run).exec start = (.ok next, between) := h
    rw [List.cons_append, run_performAll_cons, hexec]
    simp only [hrun later, List.cons_append]

/-- Events that all succeed all happen. -/
theorem performAll_of_succeed {events : List Event} {run last : Run} {start final : Workspace}
    (h : Succeed events run start last final) :
    ((performAll events run).run start).1.result = .ok last ∧
      ((performAll events run).run start).1.trail.map Prod.fst = events ∧
      ((performAll events run).run start).2 = final := by
  obtain ⟨trail, htrail, hrun⟩ := exists_run_performAll_append h
  rw [← List.append_nil events, hrun []]
  exact ⟨rfl, (congrArg _ (List.append_nil trail)).trans (htrail.trans (List.append_nil _).symm),
    rfl⟩

/-- The first event that fails is the last one that happens. -/
theorem performAll_of_failsAt {events done : List Event} {event : Event} {error : RunError}
    {run : Run} {start final : Workspace} (h : FailsAt events run start done event error final) :
    ((performAll events run).run start).1.result = .error error ∧
      ((performAll events run).run start).1.trail.map Prod.fst = done ++ [event] ∧
      ((performAll events run).run start).2 = final := by
  obtain ⟨⟨later, rfl⟩, reached, between, hdone, hexec⟩ := h
  obtain ⟨trail, htrail, hrun⟩ := exists_run_performAll_append hdone
  rw [hrun (event :: later), run_performAll_cons, hexec]
  refine ⟨rfl, ?_, rfl⟩
  rw [List.map_append, htrail]
  rfl

/-- Events come to an end without a failure just when all of them succeed. -/
theorem performAll_eq_ok_iff {events : List Event} {run last : Run} {start final : Workspace} :
    (((performAll events run).run start).1.result = .ok last ∧
      ((performAll events run).run start).2 = final) ↔ Succeed events run start last final := by
  constructor
  · rintro ⟨hresult, rfl⟩
    rcases performAll_cases events run start with ⟨_, hok, -, h⟩ | ⟨_, _, _, herror, -⟩
    · obtain rfl := Except.ok.inj (hok.symm.trans hresult)
      exact h
    · cases herror.symm.trans hresult
  · intro h
    obtain ⟨hresult, -, hfinal⟩ := performAll_of_succeed h
    exact ⟨hresult, hfinal⟩

/-- Events come to an end with a failure, the last that happens being a given one, just when this is
the first that fails. -/
theorem performAll_eq_error_iff {events done : List Event} {event : Event} {error : RunError}
    {run : Run} {start final : Workspace} :
    (((performAll events run).run start).1.result = .error error ∧
      ((performAll events run).run start).2 = final ∧
      ((performAll events run).run start).1.trail.map Prod.fst = done ++ [event]) ↔
        FailsAt events run start done event error final := by
  constructor
  · rintro ⟨hresult, rfl, htrail⟩
    rcases performAll_cases events run start with ⟨_, hok, -, -⟩ | ⟨_, _, _, herror, hdone, h⟩
    · cases hok.symm.trans hresult
    · obtain rfl := Except.error.inj (herror.symm.trans hresult)
      obtain ⟨rfl, heq⟩ := List.append_inj' (hdone.symm.trans htrail) rfl
      obtain rfl := List.head_eq_of_cons_eq heq
      exact h
  · intro h
    obtain ⟨hresult, htrail, hfinal⟩ := performAll_of_failsAt h
    exact ⟨hresult, hfinal, htrail⟩

/-- What happens starts from where all that happened before it has ended. -/
theorem exists_succeed_of_trail_eq {events : List Event} {run reached : Run} {start : Workspace}
    {before after : List (Event × Run)} {event : Event}
    (h : ((performAll events run).run start).1.trail = before ++ (event, reached) :: after) :
    ∃ between, Succeed (before.map Prod.fst) run start reached between := by
  induction events generalizing run start before with
  | nil =>
    have hnone : [] = before ++ (event, reached) :: after := h
    simp at hnone
  | cons first events ih =>
    rw [run_performAll_cons] at h
    cases before with
    | nil =>
      -- nothing has happened before, so this is the first event
      rcases hexec : (first.perform run).exec start with ⟨error | next, between⟩
      all_goals
        rw [hexec] at h
        obtain ⟨hentry, -⟩ := List.cons.inj h
        obtain ⟨rfl, rfl⟩ := Prod.mk.inj hentry
        exact ⟨start, .nil⟩
    | cons entry before =>
      rcases hexec : (first.perform run).exec start with ⟨error | next, between⟩
      · rw [hexec] at h
        have hlength := congrArg List.length h
        simp at hlength
      · rw [hexec] at h
        obtain ⟨rfl, hrest⟩ := List.cons.inj h
        obtain ⟨left, hsucceed⟩ := ih hrest
        exact ⟨left, .cons hexec hsucceed⟩

/-! ## What happens in a run -/

/-- What happens in a run is fixed by the loops that it is: for each phase, the five of every run in
their order and then the further ones, the calls of all hooks before it, the phase, and the calls of
all hooks after it. All of this happens, each event from where the one before it has ended, unless
one fails; then the first that fails is the last to happen, and the run fails as it does. -/
theorem events_of_course (pipeline : Pipeline) (machine : Machine) (task : Task)
    (start : Workspace) :
    let schedule := (Phase.all machine ++ pipeline.further).flatMap fun phase =>
      pipeline.hooks.map (.before · phase) ++ .work phase :: pipeline.hooks.map (.after · phase)
    let run := pipeline.run machine task
    let trail := ((pipeline.course machine task).run start).1.trail
    (Phase.all machine).map Phase.name =
        ["extract", "baseline-filter", "generate", "compile", "baseline-capture"] ∧
      run = pipeline.performPhases machine task ∧
      (∀ last final, run.Yields start last final ↔
        Succeed schedule { task } start last final) ∧
      (∀ last final, run.Yields start last final → trail.map Prod.fst = schedule) ∧
      (∀ done event error final,
        (run.exec start = (.error error, final) ∧ trail.map Prod.fst = done ++ [event]) ↔
          FailsAt schedule { task } start done event error final) ∧
      ((∃ last final, run.Yields start last final) ↔
        ∀ done event error final, ¬ FailsAt schedule { task } start done event error final) ∧
      ∀ before event reached after, trail = before ++ (event, reached) :: after →
        ∃ between, Succeed (before.map Prod.fst) { task } start reached between := by
  intro schedule run trail
  -- a run ends as the events of its schedule do, one after the other
  have hexec : run.exec start = (((performAll schedule { task }).run start).1.result,
      ((performAll schedule { task }).run start).2) := exec_run pipeline machine task start
  have hyields (last final) : run.Yields start last final ↔
      Succeed schedule { task } start last final := by
    rw [Yields, hexec, Prod.mk.injEq, performAll_eq_ok_iff]
  have hfails (done event error final) :
      (run.exec start = (.error error, final) ∧ trail.map Prod.fst = done ++ [event]) ↔
        FailsAt schedule { task } start done event error final := by
    rw [hexec, Prod.mk.injEq, and_assoc]
    exact performAll_eq_error_iff
  refine ⟨rfl, run_eq_performPhases pipeline machine task, hyields, fun last final h => ?_, hfails,
    ⟨?_, fun h => ?_⟩, fun before event reached after h => exists_succeed_of_trail_eq h⟩
  · exact (performAll_of_succeed ((hyields last final).1 h)).2.1
  · rintro ⟨last, final, h⟩ done event error other hfailsAt
    cases h.symm.trans ((hfails done event error other).2 hfailsAt).1
  · rcases performAll_cases schedule { task } start with
      ⟨last, -, -, hsucceed⟩ | ⟨done, event, error, -, -, hfailsAt⟩
    · exact ⟨last, _, (hyields last _).2 hsucceed⟩
    · exact absurd hfailsAt (h done event error _)

namespace Schedule

/-- A hook that notes every phase that has been performed. -/
def noting : Hook where
  name := "note"
  after := fun phase run => return run.warn "note" phase

/-- A hook that stops a run once two things have been noted. -/
def strict : Hook where
  name := "strict"
  after := fun phase run =>
    if run.diagnostics.length < 2 then return run else throw (.stopped phase)

/-- A pipeline with both hooks. -/
def watched : Pipeline where
  hooks := [noting, strict]

/-- A task without documents. -/
def idle : Task where
  settings := {
    language := .kotlin
    package := "p"
    baseClass := "B"
    baseSource := "B.kt"
    imports := []
    compiler := none }
  classpath := ⟨none, ["c"]⟩
  toolchain := ⟨"kotlinc", []⟩
  root := ""
  docs := []
  extensions := ["md"]
  paths := PathsSection.resolve {} "" .kotlin
  version := Phase.sampleVersion

/-- A machine that can launch nothing. -/
def bare : Machine where
  run := fun _ _ files => (none, files)

/-- An empty workspace. -/
def vacant : Workspace where
  files := ⟨[]⟩

/-- What happens in the idle task before the strict hook stops it. -/
def done : List Event :=
  [.before noting .extract, .before strict .extract, .work .extract, .after noting .extract]

/-- What has been noted then. -/
def noted : Run :=
  (({ task := idle } : Run).warn "extract" "no Kotlin snippets found").warn "note" "extract"

end Schedule

open Schedule

/-- In the idle task there are no snippets, which is noted, and so is that they were extracted; then
the strict hook stops it. -/
theorem events_of_course_watched :
    (watched.run bare idle).exec vacant = (.error (.stopped "extract"), vacant) ∧
      FailsAt (watched.schedule bare) { task := idle } vacant done (.after strict .extract)
        (.stopped "extract") vacant ∧
      (¬ ∃ last final, (watched.run bare idle).Yields vacant last final) ∧
      ∃ between, Succeed done { task := idle } vacant noted between := by
  obtain ⟨-, -, -, -, hfails, hyields, hreached⟩ := events_of_course watched bare idle vacant
  have htrail : ((watched.course bare idle).run vacant).1.trail.map Prod.fst =
      done ++ [.after strict .extract] := rfl
  have hfailsAt :=
    (hfails done (.after strict .extract) (.stopped "extract") vacant).1 ⟨rfl, htrail⟩
  obtain ⟨between, hdone⟩ := hreached
    (((watched.course bare idle).run vacant).1.trail.take 4) (.after strict .extract) noted [] rfl
  exact ⟨rfl, hfailsAt, fun h => hyields.1 h _ _ _ _ hfailsAt, between, hdone⟩

end Pipeline

end SnippetCheck
