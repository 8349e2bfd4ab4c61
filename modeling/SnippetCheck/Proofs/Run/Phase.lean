import SnippetCheck.Proofs.Files.Change
import SnippetCheck.Run.Phase

/-!
# The Phases Around Compiling

What extracting, leaving out accepted failures and capturing failures have done once they succeed,
and what they leave alone. The first two only read (`exec_extract`, `exec_filterBaseline`); the last
only touches the file of the baseline (`keeps_captureBaseline`). What forgetting the cache and
capturing failures keep follows from what their single steps keep (`Keeps.forgetCache`,
`Keeps.captureBaseline`).
-/

namespace SnippetCheck

open Action Files Workspace

/-! ## From single steps to phases -/

section

variable {holds : Workspace → Prop}

/-- Forgetting the cache keeps what its removal keeps, if it is removed. -/
theorem Action.Keeps.forgetCache {task : Task}
    (h : task.cleanCache = true ∨ task.mode = .capture →
      (Action.removeFileIfPresent task.paths.cacheFile).Keeps holds) :
    (Phase.forgetCache task).Keeps holds := by
  unfold Phase.forgetCache
  split
  next hforget => exact (h (by simpa using hforget)).bind fun _ => .pure ()
  next => exact .pure ()

/-- A normal run captures nothing. -/
theorem Phase.captureBaseline_perform_of_normal {run : Run} (hmode : run.task.mode = .normal) :
    captureBaseline.perform run = pure run := by
  unfold captureBaseline
  dsimp only
  rw [hmode]

/-- A capture run stores the failures as the baseline. -/
theorem Phase.captureBaseline_perform_of_capture {run : Run} (hmode : run.task.mode = .capture) :
    captureBaseline.perform run = do
      let update ← storeBaseline run.task.paths.baselineFile (captured run)
      return { run with baseline := some update } := by
  unfold captureBaseline
  dsimp only
  rw [hmode]

/-- Capturing failures keeps what is kept by removing the baseline and by writing it. -/
theorem Action.Keeps.captureBaseline {run : Run}
    (hremove : run.task.mode = .capture →
      (Action.removeFileIfPresent run.task.paths.baselineFile).Keeps holds)
    (hwrite : run.task.mode = .capture →
      ∀ content, (Action.writeText run.task.paths.baselineFile content).Keeps holds) :
    (Phase.captureBaseline.perform run).Keeps holds := by
  cases hmode : run.task.mode with
  | normal =>
    rw [Phase.captureBaseline_perform_of_normal hmode]
    exact .pure run
  | capture =>
    rw [Phase.captureBaseline_perform_of_capture hmode]
    refine Keeps.bind ?_ fun _ => .pure _
    unfold Phase.storeBaseline
    split
    · exact (Keeps.describing _ (hremove hmode)).bind fun _ => .pure _
    · exact (Keeps.describing _ (hwrite hmode _)).bind fun _ => .pure _

end

namespace Phase

variable {run next : Run} {start final : Workspace}

/-! ## Extracting -/

/-- Extracting changes no workspace. -/
theorem exec_extract (run : Run) (start : Workspace) :
    ((extract.perform run).exec start).2 = start := by
  unfold extract
  rw [exec_get_bind]
  dsimp only
  split
  · split <;> rfl
  · rfl

/-- Noting that there is nothing to validate adds a diagnostic at most. -/
private theorem exists_noteEmpty_eq (run : Run) :
    ∃ diagnostics, noteEmpty run = { run with diagnostics } := by
  unfold noteEmpty
  split
  · exact ⟨_, rfl⟩
  · exact ⟨run.diagnostics, rfl⟩

/-- An extract phase that succeeds has found the snippets of the workspace. -/
theorem extract_perform_yields (h : (extract.perform run).Yields start next final) :
    final = start ∧ ∃ snippets diagnostics, run.task.extraction.run start = .ok snippets ∧
      next = { run with snippets, diagnostics } := by
  have h := yields_get_bind.1 h
  dsimp only at h
  split at h
  next =>
    split at h
    next snippets hsnippets =>
      obtain ⟨hnext, rfl⟩ := yields_pure.1 h
      obtain ⟨diagnostics, heq⟩ := exists_noteEmpty_eq
        { noteMissing run (missingRoots run.task final) with snippets }
      exact ⟨rfl, snippets, diagnostics, hsnippets, hnext.trans heq⟩
    next => exact absurd h not_yields_throw
  next => exact absurd h not_yields_throw

/-- Snippets are only extracted when no directory of documents is missing. -/
theorem missingRoots_of_extract_perform_yields {task : Task}
    (h : (extract.perform { task }).Yields start next final) : missingRoots task start = [] := by
  have h := yields_get_bind.1 h
  dsimp only at h
  split at h
  next hnoted =>
    -- an error would have been noted for every missing directory
    rw [List.eq_nil_iff_forall_not_mem]
    simpa [noteMissing, Run.errors, Diagnostic.errors, Diagnostic.ofSeverity] using hnoted
  next => exact absurd h not_yields_throw

/-! ## Leaving out accepted failures -/

/-- What is noted about what was loaded. -/
def noted {α : Type} (loaded : Except StateError α) (phase : String) : List Diagnostic :=
  match loaded with
  | .ok _ => []
  | .error error =>
    if error.isFault then [{ severity := .warning, phase, message := error.message }] else []

/-- Loading gives what was loaded, or what is taken in its place, and adds what is noted. -/
theorem orWarn_eq {α : Type} (loaded : Except StateError α) (fallback : α) (phase : String)
    (run : Run) :
    orWarn loaded fallback phase run = (loaded.toOption.getD fallback,
      { run with diagnostics := run.diagnostics ++ noted loaded phase }) := by
  cases loaded with
  | ok value => simp [orWarn, noted, Except.toOption]
  | error error =>
    unfold orWarn noted
    dsimp only [Except.toOption, Option.getD]
    split <;> simp [Run.warn, Run.note]

/-- The baseline that a run goes by: the stored one, unless failures are captured or it cannot be
used. -/
def loadedBaseline (task : Task) (workspace : Workspace) : Baseline :=
  if task.mode = .capture then .empty
  else (Baseline.load workspace task.paths.baselineFile).toOption.getD .empty

/-- Leaving out accepted failures changes no workspace. -/
theorem exec_filterBaseline (run : Run) (start : Workspace) :
    ((filterBaseline.perform run).exec start).2 = start := by
  unfold filterBaseline
  dsimp only
  split
  · rfl
  · rw [exec_get_bind]
    rfl

/-- Leaving out what the empty baseline accepts leaves nothing out. -/
@[simp]
theorem leaveOut_empty (run : Run) : leaveOut .empty run = run := rfl

/-- Leaving snippets out does not change what a run is to do. -/
@[simp]
theorem task_leaveOut (baseline : Baseline) (run : Run) :
    (leaveOut baseline run).task = run.task := by
  unfold leaveOut
  split <;> rfl

/-- What is left out does not depend on what was noted. -/
theorem leaveOut_withDiagnostics (baseline : Baseline) (run : Run)
    (diagnostics : List Diagnostic) :
    leaveOut baseline { run with diagnostics } =
      { leaveOut baseline run with diagnostics } := by
  unfold leaveOut
  split <;> rfl

/-- A baseline phase that succeeds has left out what the loaded baseline accepts. -/
theorem filterBaseline_perform_yields
    (h : (filterBaseline.perform run).Yields start next final) :
    final = start ∧ ∃ diagnostics,
      next = { leaveOut (loadedBaseline run.task start) run with diagnostics } := by
  unfold filterBaseline at h
  dsimp only at h
  unfold loadedBaseline
  split at h
  next hmode =>
    obtain ⟨rfl, rfl⟩ := yields_pure.1 h
    exact ⟨rfl, _, by rw [if_pos hmode]; rfl⟩
  next hmode =>
    have h := yields_get_bind.1 h
    rw [orWarn_eq, leaveOut_withDiagnostics] at h
    obtain ⟨rfl, rfl⟩ := yields_pure.1 h
    exact ⟨rfl, _, by rw [if_neg (by simp [hmode])]⟩

/-! ## Capturing failures -/

/-- What becomes of the baseline in a mode. -/
def updateOf (mode : Mode) (path : String) (baseline : Baseline) : Option BaselineUpdate :=
  match mode with
  | .normal => none
  | .capture => some (if baseline.isEmpty then .removed path else .written path baseline.size)

/-- Storing a baseline that succeeds has removed it if it accepts nothing, and has written it
otherwise. -/
theorem storeBaseline_yields_cases {path : String} {baseline : Baseline}
    {update : BaselineUpdate} (h : (storeBaseline path baseline).Yields start update final) :
    (baseline.isEmpty = true ∧ update = .removed path ∧
      ∃ present, (removeFileIfPresent path).Yields start present final) ∨
    (baseline.isEmpty = false ∧ update = .written path baseline.size ∧
      (baseline.save path).Yields start () final) := by
  unfold storeBaseline at h
  split at h
  next hempty =>
    obtain ⟨present, _, hremove, hupdate⟩ := yields_bind.1 h
    obtain ⟨rfl, rfl⟩ := yields_pure.1 hupdate
    exact .inl ⟨hempty, rfl, present, yields_describing.1 hremove⟩
  next hempty =>
    obtain ⟨_, _, hsave, hupdate⟩ := yields_bind.1 h
    obtain ⟨rfl, rfl⟩ := yields_pure.1 hupdate
    exact .inr ⟨Bool.eq_false_iff.2 hempty, rfl, yields_describing.1 hsave⟩

/-- Storing a baseline that succeeds tells whether it was removed or written. -/
private theorem storeBaseline_yields {path : String} {baseline : Baseline}
    {update : BaselineUpdate} (h : (storeBaseline path baseline).Yields start update final) :
    some update = updateOf .capture path baseline := by
  rcases storeBaseline_yields_cases h with ⟨hempty, rfl, -⟩ | ⟨hentries, rfl, -⟩
  · simp [updateOf, hempty]
  · simp [updateOf, hentries]

/-- A capture phase that succeeds tells what became of the baseline. -/
theorem captureBaseline_perform_yields (hbaseline : run.baseline = none)
    (h : (captureBaseline.perform run).Yields start next final) :
    next = { run with
      baseline := updateOf run.task.mode run.task.paths.baselineFile (captured run) } := by
  cases hmode : run.task.mode with
  | normal =>
    rw [captureBaseline_perform_of_normal hmode] at h
    obtain ⟨rfl, rfl⟩ := yields_pure.1 h
    rw [updateOf, ← hbaseline]
  | capture =>
    rw [captureBaseline_perform_of_capture hmode] at h
    obtain ⟨update, between, hstore, hnext⟩ := yields_bind.1 h
    obtain ⟨rfl, rfl⟩ := yields_pure.1 hnext
    rw [← storeBaseline_yields hstore]

/-- The capture phase touches no file but that of the baseline. -/
theorem keeps_captureBaseline_agrees {origin : Workspace} {location : Location}
    (hne : location ≠ target origin.cwd run.task.paths.baselineFile) :
    (captureBaseline.perform run).Keeps (origin.Agrees location) :=
  .captureBaseline (fun _ => keeps_removeFileIfPresent hne) fun _ => keeps_writeText hne

/-- The capture phase leaves every file but that of the baseline. -/
theorem keeps_captureBaseline {cwd location : Location} {content : Option ByteArray}
    (hne : location ≠ target cwd run.task.paths.baselineFile) :
    (captureBaseline.perform run).Keeps (HoldsAt cwd location content) := by
  refine Keeps.holdsAt fun origin horigin => keeps_captureBaseline_agrees ?_
  rwa [horigin]

end Phase

end SnippetCheck
