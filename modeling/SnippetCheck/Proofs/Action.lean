import SnippetCheck.Files.Change

/-!
# Actions And What They Keep

An action takes a workspace to a result and another workspace. This module says how the
composite actions end in terms of their parts, and gives the three forms in which later modules
speak of actions:

* `action.Yields start value final`: from `start`, the action succeeds with `value` and leaves
  `final`; `yields_bind` takes a sequence apart.
* `action.Keeps holds`: whatever holds of the workspace before the action holds after it, also
  when the action fails; `Keeps.bind` puts a sequence together.
* `action.KeepsFailing holds`: what holds before the action holds after it if the action fails;
  nothing is said about its success.
-/

namespace SnippetCheck.Action

variable {ε δ α β : Type}

/-- How an action ends that starts from a workspace. -/
def exec (action : Action ε α) (start : Workspace) : Except ε α × Workspace :=
  (ExceptT.run action).run start

/-- From `start`, the action succeeds with `value` and leaves `final`. -/
def Yields (action : Action ε α) (start : Workspace) (value : α) (final : Workspace) : Prop :=
  action.exec start = (.ok value, final)

/-- What holds before the action holds after it, whether it succeeds or fails. -/
def Keeps (action : Action ε α) (holds : Workspace → Prop) : Prop :=
  ∀ start, holds start → holds (action.exec start).2

/-! ## How composite actions end -/

/-- A value that is returned leaves the workspace alone. -/
@[simp]
theorem exec_pure (value : α) (start : Workspace) :
    exec (pure value : Action ε α) start = (.ok value, start) := rfl

/-- An error that is thrown leaves the workspace alone. -/
@[simp]
theorem exec_throw (error : ε) (start : Workspace) :
    exec (throw error : Action ε α) start = (.error error, start) := rfl

/-- Reading the workspace leaves it alone. -/
@[simp]
theorem exec_get (start : Workspace) :
    exec (get : Action ε Workspace) start = (.ok start, start) := rfl

/-- Setting the workspace replaces it. -/
@[simp]
theorem exec_set (workspace start : Workspace) :
    exec (set workspace : Action ε PUnit) start = (.ok ⟨⟩, workspace) := rfl

/-- A plain result is the result of the action that it is lifted to. -/
@[simp]
theorem exec_liftExcept (result : Except ε α) (start : Workspace) :
    exec (liftExcept result : Action ε α) start = (result, start) := by
  cases result <;> rfl

/-- An action that ends with a value hands it and its workspace on; one that fails ends the
sequence. -/
theorem exec_bind (action : Action ε α) (next : α → Action ε β) (start : Workspace) :
    exec (action >>= next) start =
      match action.exec start with
      | (.ok value, workspace) => (next value).exec workspace
      | (.error error, workspace) => (.error error, workspace) := by
  rcases hexec : action.exec start with ⟨_ | _, _⟩
  all_goals
    change (ExceptT.run action).run start = _ at hexec
    change (ExceptT.run (action >>= next)).run start = _
    rw [ExceptT.run_bind, StateT.run_bind, hexec]
    rfl

/-- A sequence that reads the workspace first ends as it does from there. -/
theorem exec_get_bind (next : Workspace → Action ε β) (start : Workspace) :
    exec (get >>= next) start = (next start).exec start := by
  rw [exec_bind, exec_get]

/-- Describing failures anew changes nothing else. -/
@[simp]
theorem exec_describing (describe : ε → δ) (action : Action ε α) (start : Workspace) :
    exec (action.describing describe) start =
      ((action.exec start).1.mapError describe, (action.exec start).2) := by
  change (ExceptT.run (ExceptT.adapt describe action)).run start = _
  rw [ExceptT.run_adapt]
  rfl

/-- A launch ends as the machine says. -/
@[simp]
theorem exec_launch (machine : Machine) (command : Command) (start : Workspace) :
    exec (launch machine command : Action ε (Option Finished)) start =
      (.ok (start.launch machine command).1, (start.launch machine command).2) := rfl

/-- A replacement of the files leaves them, or what they were replaced by. -/
theorem exec_replaceFiles
    (change : Files.Tree → Files.Location → Except Files.Refusal Files.Tree) (error : ε)
    (start : Workspace) :
    (replaceFiles change error).exec start =
      match change start.files start.cwd with
      | .ok files => (.ok (), { start with files })
      | .error _ => (.error error, start) := by
  rw [replaceFiles, exec_get_bind]
  cases change start.files start.cwd <;> rfl

/-- A change of the files leaves what it says, whether it succeeds or not. -/
theorem exec_changeFiles
    (change : Files.Tree → Files.Location → Except Files.Refusal Unit × Files.Tree) (error : ε)
    (start : Workspace) :
    (changeFiles change error).exec start =
      match (change start.files start.cwd).1 with
      | .ok () => (.ok (), { start with files := (change start.files start.cwd).2 })
      | .error _ => (.error error, { start with files := (change start.files start.cwd).2 }) := by
  rw [changeFiles, exec_get_bind]
  rcases change start.files start.cwd with ⟨_ | _, files⟩ <;> rfl

/-! ## Success -/

/-- A returned value is the one that is yielded. -/
@[simp]
theorem yields_pure {value result : α} {start final : Workspace} :
    (pure value : Action ε α).Yields start result final ↔ result = value ∧ final = start := by
  simp only [Yields, exec_pure, Prod.mk.injEq, Except.ok.injEq]
  exact and_congr eq_comm eq_comm

/-- What throws does not succeed. -/
@[simp]
theorem not_yields_throw {error : ε} {result : α} {start final : Workspace} :
    ¬ (throw error : Action ε α).Yields start result final := by
  simp [Yields]

/-- Reading the workspace yields it. -/
@[simp]
theorem yields_get {workspace start final : Workspace} :
    (get : Action ε Workspace).Yields start workspace final ↔
      workspace = start ∧ final = start := by
  simp only [Yields, exec_get, Prod.mk.injEq, Except.ok.injEq]
  exact and_congr eq_comm eq_comm

/-- A lifted result yields its value. -/
@[simp]
theorem yields_liftExcept {result : Except ε α} {value : α} {start final : Workspace} :
    (liftExcept result : Action ε α).Yields start value final ↔
      result = .ok value ∧ final = start := by
  simp only [Yields, exec_liftExcept, Prod.mk.injEq]
  exact and_congr_right fun _ => eq_comm

/-- Describing failures anew does not touch success. -/
@[simp]
theorem yields_describing {describe : ε → δ} {action : Action ε α} {value : α}
    {start final : Workspace} :
    (action.describing describe).Yields start value final ↔ action.Yields start value final := by
  simp only [Yields, exec_describing]
  rcases action.exec start with ⟨error | found, other⟩
  · show (Except.error (describe error), other) = _ ↔ _
    simp
  · show (Except.ok found, other) = _ ↔ _
    simp

/-- A launch yields what is known of the process. -/
@[simp]
theorem yields_launch {machine : Machine} {command : Command} {finished : Option Finished}
    {start final : Workspace} :
    (launch machine command : Action ε (Option Finished)).Yields start finished final ↔
      start.launch machine command = (finished, final) := by
  simp only [Yields, exec_launch, Prod.mk.injEq, Except.ok.injEq]
  rw [Prod.ext_iff]

/-- A sequence succeeds when its parts do, one from where the other ends. -/
theorem yields_bind {action : Action ε α} {next : α → Action ε β} {result : β}
    {start final : Workspace} :
    (action >>= next).Yields start result final ↔
      ∃ value between, action.Yields start value between ∧
        (next value).Yields between result final := by
  simp only [Yields, exec_bind]
  constructor
  · intro h
    split at h
    next value between hvalue => exact ⟨value, between, hvalue, h⟩
    next => cases h
  · rintro ⟨value, between, hvalue, hnext⟩
    rw [hvalue]
    exact hnext

/-- An action that does not fail yields something. -/
theorem exists_yields {action : Action ε α} {start : Workspace}
    (h : (action.exec start).1.isOk = true) : ∃ value final, action.Yields start value final := by
  rcases hexec : action.exec start with ⟨error | value, final⟩
  · rw [hexec] at h
    cases h
  · exact ⟨value, final, hexec⟩

/-- An action yields the value that it ends with. -/
theorem yields_of_exec {action : Action ε α} {start final : Workspace} {value : α}
    (hvalue : (action.exec start).1.toOption = some value)
    (hfinal : (action.exec start).2 = final) : action.Yields start value final := by
  rcases hexec : action.exec start with ⟨error | other, last⟩
  · rw [hexec] at hvalue
    cases hvalue
  · rw [hexec] at hvalue hfinal
    rw [Yields, hexec, ← hfinal, Option.some.inj hvalue]

/-- A sequence that reads the workspace first succeeds when it succeeds from there. -/
theorem yields_get_bind {next : Workspace → Action ε β} {result : β} {start final : Workspace} :
    (get >>= next : Action ε β).Yields start result final ↔
      (next start).Yields start result final := by
  simp only [Yields, exec_get_bind]

/-- A second success from the same workspace is the same one. -/
theorem Yields.unique {action : Action ε α} {start : Workspace} {value other : α}
    {final end' : Workspace} (h : action.Yields start value final)
    (h' : action.Yields start other end') : other = value ∧ end' = final := by
  have heq := h'.symm.trans h
  simpa using heq

/-! ## What is kept -/

/-- What an action keeps holds after its success. -/
theorem Keeps.of_yields {action : Action ε α} {holds : Workspace → Prop} {start final : Workspace}
    {value : α} (hkeeps : action.Keeps holds) (h : action.Yields start value final)
    (hstart : holds start) : holds final := by
  have hfinal := hkeeps start hstart
  rw [h] at hfinal
  exact hfinal

/-- What is kept and what else is kept are kept together. -/
theorem Keeps.and {action : Action ε α} {holds other : Workspace → Prop} (h : action.Keeps holds)
    (hother : action.Keeps other) :
    action.Keeps fun workspace => holds workspace ∧ other workspace :=
  fun start hstart => ⟨h start hstart.1, hother start hstart.2⟩

/-- A returned value keeps everything. -/
theorem Keeps.pure {holds : Workspace → Prop} (value : α) :
    (Pure.pure value : Action ε α).Keeps holds :=
  fun _ hstart => hstart

/-- A thrown error keeps everything. -/
theorem Keeps.throw {holds : Workspace → Prop} (error : ε) :
    (MonadExcept.throw error : Action ε α).Keeps holds :=
  fun _ hstart => hstart

/-- A lifted result keeps everything. -/
theorem Keeps.lift {holds : Workspace → Prop} (result : Except ε α) :
    (liftExcept result : Action ε α).Keeps holds := by
  intro start hstart
  rw [exec_liftExcept]
  exact hstart

/-- What the first part of a sequence keeps, and the rest keeps where the first part has succeeded,
holds after the sequence. -/
theorem holds_exec_bind {holds : Workspace → Prop} {action : Action ε α} {next : α → Action ε β}
    {start : Workspace} (haction : action.Keeps holds) (hstart : holds start)
    (hnext : ∀ value between, action.Yields start value between → holds between →
      holds ((next value).exec between).2) : holds ((action >>= next).exec start).2 := by
  have hbetween := haction start hstart
  rw [exec_bind]
  rcases hexec : action.exec start with ⟨_ | value, between⟩ <;> rw [hexec] at hbetween
  · exact hbetween
  · exact hnext value between hexec hbetween

/-- A sequence keeps what its parts keep. -/
theorem Keeps.bind {holds : Workspace → Prop} {action : Action ε α} {next : α → Action ε β}
    (haction : action.Keeps holds) (hnext : ∀ value, (next value).Keeps holds) :
    (action >>= next).Keeps holds :=
  fun _ hstart => holds_exec_bind haction hstart fun value between _ => hnext value between

/-- A sequence that reads the workspace first keeps what it keeps from there. -/
theorem Keeps.get_bind {holds : Workspace → Prop} {next : Workspace → Action ε β}
    (hnext : ∀ start, holds start → holds ((next start).exec start).2) :
    (get >>= next : Action ε β).Keeps holds := by
  intro start hstart
  rw [exec_get_bind]
  exact hnext start hstart

/-- Describing failures anew keeps what the action keeps. -/
theorem Keeps.describing {holds : Workspace → Prop} {action : Action ε α} (describe : ε → δ)
    (haction : action.Keeps holds) : (action.describing describe).Keeps holds := by
  intro start hstart
  rw [exec_describing]
  exact haction start hstart

/-- A launch keeps what the machine keeps. -/
theorem Keeps.launch {holds : Workspace → Prop} {machine : Machine} {command : Command}
    (h : ∀ start, holds start → holds (start.launch machine command).2) :
    (Action.launch machine command : Action ε (Option Finished)).Keeps holds := by
  intro start hstart
  rw [exec_launch]
  exact h start hstart

/-- A replacement of the files keeps what every successful change keeps. -/
theorem Keeps.replaceFiles {holds : Workspace → Prop}
    {change : Files.Tree → Files.Location → Except Files.Refusal Files.Tree} {error : ε}
    (h : ∀ start files, holds start → change start.files start.cwd = .ok files →
      holds { start with files }) :
    (Action.replaceFiles change error).Keeps holds := by
  apply Keeps.get_bind
  intro start hstart
  split
  next files hfiles => exact h start files hstart hfiles
  next => exact hstart

/-- A change of the files keeps what holds of its result, whether it succeeds or not. -/
theorem Keeps.changeFiles {holds : Workspace → Prop}
    {change : Files.Tree → Files.Location → Except Files.Refusal Unit × Files.Tree} {error : ε}
    (h : ∀ start, holds start →
      holds { start with files := (change start.files start.cwd).2 }) :
    (Action.changeFiles change error).Keeps holds := by
  apply Keeps.get_bind
  intro start hstart
  rw [exec_bind, exec_set]
  dsimp only
  split <;> exact h start hstart

/-! ## What is kept by failures -/

/-- What holds before the action holds after it, if it fails. -/
def KeepsFailing (action : Action ε α) (holds : Workspace → Prop) : Prop :=
  ∀ start error final, holds start → action.exec start = (.error error, final) → holds final

/-- What is kept is kept by failures. -/
theorem Keeps.keepsFailing {holds : Workspace → Prop} {action : Action ε α}
    (h : action.Keeps holds) : action.KeepsFailing holds := by
  intro start error final hstart hexec
  have hfinal := h start hstart
  rwa [hexec] at hfinal

/-- A sequence whose first part keeps something keeps that by failures, if the rest does. -/
theorem KeepsFailing.bind {holds : Workspace → Prop} {action : Action ε α} {next : α → Action ε β}
    (haction : action.Keeps holds) (hnext : ∀ value, (next value).KeepsFailing holds) :
    (action >>= next).KeepsFailing holds := by
  intro start error final hstart hexec
  have hbetween := haction start hstart
  rw [exec_bind] at hexec
  rcases haction' : action.exec start with ⟨cause | value, between⟩ <;>
    rw [haction'] at hexec hbetween
  · obtain ⟨-, rfl⟩ := Prod.mk.inj hexec
    exact hbetween
  · exact hnext value between error final hbetween hexec

/-- A sequence of which only the first part can fail keeps by failures what that part does. -/
theorem KeepsFailing.bind_pure {holds : Workspace → Prop} {action : Action ε α} {value : α → β}
    (h : action.KeepsFailing holds) :
    (action >>= fun result => pure (value result)).KeepsFailing holds := by
  intro start error final hstart hexec
  rw [exec_bind] at hexec
  rcases haction : action.exec start with ⟨cause | result, between⟩ <;> rw [haction] at hexec
  · obtain ⟨-, rfl⟩ := Prod.mk.inj hexec
    exact h start cause _ hstart haction
  · cases (Prod.mk.inj hexec).1

/-- Describing failures anew keeps by failures what the action does. -/
theorem KeepsFailing.describing {holds : Workspace → Prop} {action : Action ε α}
    (describe : ε → δ) (h : action.KeepsFailing holds) :
    (action.describing describe).KeepsFailing holds := by
  intro start error final hstart hexec
  rw [exec_describing] at hexec
  rcases haction : action.exec start with ⟨cause | value, between⟩ <;> rw [haction] at hexec
  · obtain ⟨-, rfl⟩ := Prod.mk.inj hexec
    exact h start cause _ hstart haction
  · cases (Prod.mk.inj hexec).1

/-- A replacement of the files that fails has left them. -/
theorem KeepsFailing.replaceFiles {holds : Workspace → Prop}
    {change : Files.Tree → Files.Location → Except Files.Refusal Files.Tree} {error : ε} :
    (Action.replaceFiles change error).KeepsFailing holds := by
  intro start cause final hstart hexec
  rw [exec_replaceFiles] at hexec
  split at hexec
  · cases (Prod.mk.inj hexec).1
  · obtain ⟨-, rfl⟩ := Prod.mk.inj hexec
    exact hstart

/-! ## Changed files -/

/-- A replacement of the files that succeeds has changed them, and nothing else. -/
theorem yields_replaceFiles
    {change : Files.Tree → Files.Location → Except Files.Refusal Files.Tree} {error : ε}
    {start final : Workspace} {value : Unit} :
    (replaceFiles change error).Yields start value final ↔
      ∃ files, change start.files start.cwd = .ok files ∧ final = { start with files } := by
  simp only [replaceFiles, yields_get_bind]
  constructor
  · intro h
    split at h
    next files hfiles =>
      simp only [Yields, exec_set, Prod.mk.injEq] at h
      exact ⟨files, hfiles, h.2.symm⟩
    next => exact absurd h not_yields_throw
  · rintro ⟨files, hfiles, rfl⟩
    rw [hfiles]
    rfl

/-- A change of the files that succeeds has left what it says. -/
theorem yields_changeFiles
    {change : Files.Tree → Files.Location → Except Files.Refusal Unit × Files.Tree} {error : ε}
    {start final : Workspace} {value : Unit} :
    (changeFiles change error).Yields start value final ↔
      (change start.files start.cwd).1 = .ok () ∧
        final = { start with files := (change start.files start.cwd).2 } := by
  rw [changeFiles, yields_get_bind, yields_bind]
  rcases hchange : change start.files start.cwd with ⟨result, files⟩
  constructor
  · rintro ⟨written, after, hset, h⟩
    simp only [Yields, exec_set, Prod.mk.injEq] at hset
    cases result with
    | error error => exact absurd h not_yields_throw
    | ok =>
      rw [yields_pure] at h
      exact ⟨rfl, h.2.trans hset.2.symm⟩
  · rintro ⟨rfl, rfl⟩
    exact ⟨⟨⟩, _, rfl, yields_pure.2 ⟨rfl, rfl⟩⟩

end SnippetCheck.Action
