import SnippetCheck.Run.Phase

/-!
# Pipelines

A pipeline performs the phases of a run and further phases after them. Hooks are called
before and after every phase. What happens is a list of events that is fixed beforehand; the
first event that fails is the last one to happen.
-/

namespace SnippetCheck

/-- What is called around phases. -/
structure Hook where
  /-- The name of the hook. -/
  name : String
  /-- What is done before the phase of a name. -/
  before : String → Run → Action RunError Run := fun _ run => pure run
  /-- What is done after the phase of a name. -/
  after : String → Run → Action RunError Run := fun _ run => pure run

/-- Something that happens in a run. -/
inductive Event where
  /-- A hook is called before a phase. -/
  | before (hook : Hook) (phase : Phase)
  /-- A phase is performed. -/
  | work (phase : Phase)
  /-- A hook is called after a phase. -/
  | after (hook : Hook) (phase : Phase)

/-- What an event does. -/
def Event.perform : Event → Run → Action RunError Run
  | .before hook phase => hook.before phase.name
  | .work phase => phase.perform
  | .after hook phase => hook.after phase.name

/-- What a run goes through. -/
structure Pipeline where
  /-- The hooks, in the order of their calls. -/
  hooks : List Hook := []
  /-- The phases after those of every run. -/
  further : List Phase := []

/-- What came of a run. -/
structure Course where
  /-- The events that happened, each with the state that it started from. -/
  trail : List (Event × Run)
  /-- The final state, or why the run stopped. -/
  result : Except RunError Run

namespace Pipeline

/-- The events around a phase. -/
def eventsOf (pipeline : Pipeline) (phase : Phase) : List Event :=
  pipeline.hooks.map (.before · phase) ++ .work phase :: pipeline.hooks.map (.after · phase)

/-- All events of a run that nothing stops. -/
def schedule (pipeline : Pipeline) (machine : Machine) : List Event :=
  (Phase.all machine ++ pipeline.further).flatMap pipeline.eventsOf

/-- Perform events until one fails. -/
def performAll : List Event → Run → StateM Workspace Course
  | [], run => return ⟨[], .ok run⟩
  | event :: events, run => do
    match ← (event.perform run).run with
    | .error error => return ⟨[(event, run)], .error error⟩
    | .ok next =>
      let course ← performAll events next
      return ⟨(event, run) :: course.trail, course.result⟩

/-- Carry out a task. -/
def course (pipeline : Pipeline) (machine : Machine) (task : Task) : StateM Workspace Course :=
  performAll (pipeline.schedule machine) { task }

/-- Carry out a task, and give the final state. -/
def run (pipeline : Pipeline) (machine : Machine) (task : Task) : Action RunError Run := do
  liftExcept (← pipeline.course machine task).result

end Pipeline

end SnippetCheck
