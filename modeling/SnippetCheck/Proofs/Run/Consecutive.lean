import SnippetCheck.Proofs.Run.History

/-!
# Consecutive Runs

The cache knows the content of a snippet, but a verdict is about the source that was made of it,
with the settings, the path and the class name. When one run follows another, an outcome that is not
cached is the verdict on the unit's own source; a cached one is what the earlier run had for its
last unit with the same content (`outcomes_of_consecutive_runs`). That may not be the verdict on the
unit's own source any more (`cached_pass_of_changed_imports`).
-/

namespace SnippetCheck

open Action Files Phase

/-- What an outcome for a unit goes back to, after an earlier run: it has the errors of the unit's
own source and file name, unless it is cached; else it has those of the earlier run's last outcome
for the same content, which are the errors of that unit's source and file name at the time, unless
it was cached already. -/
structure Run.Accounts (earlier : Run) (errors : String → String → List String)
    (sourceUnit : SourceUnit) (outcome : Outcome) : Prop where
  compiled : outcome.cached = false →
    outcome.errors = errors sourceUnit.source sourceUnit.fileName
  inherited : outcome.cached = true → ∃ before other former after,
    earlier.units.zip earlier.outcomes = before ++ (other, former) :: after ∧
    other.snippet.hash = sourceUnit.snippet.hash ∧
    (∀ later ∈ after, later.1.snippet.hash ≠ sourceUnit.snippet.hash) ∧
    outcome.errors = former.errors ∧
    (former.cached = false → former.errors = errors other.source other.fileName)

variable {machine next : Machine} {location : Location} {errors : String → String → List String}
  {first second : Task} {start middle edited final : Workspace} {earlier later : Run}

/-- When the units of the earlier run were settled, its cache accounts for the outcomes of other
units. -/
theorem accounts_settle {cache : Cache}
    (hearlier : earlier.outcomes = earlier.units.map
      (settle cache fun sourceUnit => errors sourceUnit.source sourceUnit.fileName))
    (sourceUnit : SourceUnit) :
    earlier.Accounts errors sourceUnit (settle (cacheOf earlier.outcomes)
      (fun sourceUnit => errors sourceUnit.source sourceUnit.fileName) sourceUnit) where
  compiled h := errors_settle h
  inherited h := by
    unfold settle at h ⊢
    split at h
    next found hget =>
      obtain ⟨before, former, after, hsplit, hhash, rfl, hafter⟩ := exists_of_get?_cacheOf hget
      -- the last outcome with the hash is that of the last unit with this content
      rw [hearlier, List.map_eq_append_iff] at hsplit
      obtain ⟨unitsBefore, rest, hunits, rfl, hrest⟩ := hsplit
      obtain ⟨other, unitsAfter, rfl, rfl, rfl⟩ := List.map_eq_cons_iff.1 hrest
      have hzip := @List.zip_map' _ _ _ id
        (settle cache fun sourceUnit => errors sourceUnit.source sourceUnit.fileName) earlier.units
      rw [List.map_id, ← hearlier] at hzip
      rw [hzip, hunits, List.map_append, List.map_cons]
      refine ⟨_, other, _, _, rfl, ?_, ?_, rfl, errors_settle⟩
      · rw [← hhash, hash_settle]
      · intro later hlater
        obtain ⟨third, hthird, rfl⟩ := List.mem_map.1 hlater
        rw [← hash_settle cache (fun sourceUnit => errors sourceUnit.source sourceUnit.fileName)]
        exact hafter _ (List.mem_map_of_mem hthird)
    next => cases h

/-- An empty cache accounts for the outcomes of units. -/
theorem accounts_settle_empty (earlier : Run) (sourceUnit : SourceUnit) :
    earlier.Accounts errors sourceUnit (settle .empty
      (fun sourceUnit => errors sourceUnit.source sourceUnit.fileName) sourceUnit) where
  compiled h := errors_settle h
  inherited h := nomatch h

/-- Let two fair runs follow each other, with the cache file left alone in between. If what is found
for a unit is a function of its source and its file name, then the earlier run accounts in this way
for every outcome of the later one. -/
theorem outcomes_of_consecutive_runs
    (hfirst : first.Fair machine location
      (fun sourceUnit => errors sourceUnit.source sourceUnit.fileName) start)
    (hearlier : (({} : Pipeline).run machine first).Yields start earlier middle)
    (hfile : edited.files.fileAt? location = middle.files.fileAt? location)
    (hsecond : second.Fair next location
      (fun sourceUnit => errors sourceUnit.source sourceUnit.fileName) edited)
    (hlater : (({} : Pipeline).run next second).Yields edited later final) :
    List.Forall₂ (earlier.Accounts errors) later.units later.outcomes := by
  obtain ⟨⟨_, cache, _, -, hfirstRun⟩, hstored⟩ := hfirst.run_yields hearlier
  obtain ⟨⟨_, held, _, hheld, rfl⟩, -⟩ := hsecond.run_yields hlater
  rw [hfile, hstored] at hheld
  refine List.forall₂_map_right_iff.2 (List.forall₂_same.2 fun sourceUnit _ => ?_)
  -- either nothing could be loaded, or the cache of the earlier outcomes was
  rcases hheld with rfl | ⟨bytes, hbytes, hcache⟩
  · exact accounts_settle_empty earlier sourceUnit
  · obtain rfl := Option.some.inj hbytes
    rw [Cache.ofBytes?_toText (canonical_cacheOf _), Option.some.injEq, Prod.mk.injEq] at hcache
    obtain ⟨-, rfl⟩ := hcache
    exact accounts_settle (by rw [hfirstRun]; rfl) sourceUnit

/-! ## A verdict that has become wrong -/

namespace Consecutive

open History

/-- The sample task with an import that its compiler objects to. -/
def importingTask : Task :=
  { sampleTask with settings := { sampleTask.settings with imports := ["lib"] } }

/-- The course of this task after the sample task. -/
def importingCourse : Course × Workspace :=
  (({} : Pipeline).course (.reading objection) importingTask).run sampleStored

/-- What the compiler finds in a source text, for a file name. -/
def objectionsTo (source fileName : String) : List String :=
  Compiler.resultOf sampleTask.session.convention fileName (objection source.toUTF8)

/-- What a run tells of its outcomes, and what the compiler finds in the sources of its units. -/
def compared (run : Run) : List (Bool × List String) × List (List String) :=
  (told run, run.units.map fun sourceUnit => objectionsTo sourceUnit.source sourceUnit.fileName)

set_option maxRecDepth 100000 in
/-- The task with the import succeeds with the pass that was stored, though its source would
fail. -/
private theorem importingCourse_compared :
    (∀ entry ∈ importingCourse.1.trail, (entry.2.units.map SourceUnit.className).Nodup) ∧
      importingCourse.1.result.toOption.map compared =
        some ([(true, [])], [["  compiler exited with exit status: 1"]]) := by
  decide +kernel

/-- For the sample machine, what is found for a unit is a function of its source and file name. -/
private theorem fair_of_names {task : Task} {start : Workspace}
    (hlanguage : task.language = .java) (hpaths : task.paths = sampleTask.paths)
    (hcwd : start.cwd = [])
    (hnames : ∀ entry ∈ ((({} : Pipeline).course (.reading objection) task).run start).1.trail,
      (entry.2.units.map SourceUnit.className).Nodup) :
    task.Fair (.reading objection) (target [] sampleTask.paths.cacheFile)
      (fun sourceUnit => objectionsTo sourceUnit.source sourceUnit.fileName) start := by
  refine Task.fair_of_reading ⟨⟨{}, "", ?_⟩, ?_⟩ fun entry hentry =>
    ⟨hnames entry hentry, fun sourceUnit _ => ?_⟩
  · rw [hpaths, hlanguage]
    rfl
  · rw [hpaths, hcwd]
  · have hconvention : task.session.convention = sampleTask.session.convention :=
      congrArg Compiler.Convention.of hlanguage
    rw [Compiler.Session.resultFor, objectionsTo, hconvention]

/-- The task with the import succeeds after that. -/
private theorem exists_importingTask_yields :
    ∃ later final,
      (({} : Pipeline).run (.reading objection) importingTask).Yields sampleStored later final ∧
      told later = [(true, [])] ∧
      (later.units.map fun sourceUnit => objectionsTo sourceUnit.source sourceUnit.fileName) =
        [["  compiler exited with exit status: 1"]] := by
  obtain ⟨later, hlater, hcompared⟩ := Pipeline.exists_run_yields importingCourse_compared.2
  obtain ⟨htold, hunits⟩ := Prod.mk.inj hcompared
  exact ⟨later, _, hlater, htold, hunits⟩

/-- The course of the sample task is fair. -/
private theorem fair_sampleTask_sampleStart :
    sampleTask.Fair (.reading objection) (target [] sampleTask.paths.cacheFile)
      (fun sourceUnit => objectionsTo sourceUnit.source sourceUnit.fileName) sampleStart := by
  obtain ⟨hunits, -⟩ := sampleCourse_sampleStart
  exact fair_of_names rfl rfl rfl fun entry hentry => (hunits entry hentry).1

/-- So is the course of the task with the import. -/
private theorem fair_importingTask_sampleStored :
    importingTask.Fair (.reading objection) (target [] sampleTask.paths.cacheFile)
      (fun sourceUnit => objectionsTo sourceUnit.source sourceUnit.fileName) sampleStored :=
  fair_of_names rfl rfl rfl importingCourse_compared.1

end Consecutive

open History Consecutive

/-- The outcome of the task with the import is accounted for by the run of the sample task. -/
theorem outcomes_of_consecutive_runs_importingTask :
    ∃ earlier later final,
      (({} : Pipeline).run (.reading objection) sampleTask).Yields sampleStart earlier
        sampleStored ∧
      (({} : Pipeline).run (.reading objection) importingTask).Yields sampleStored later final ∧
      told later = [(true, [])] ∧
      List.Forall₂ (earlier.Accounts objectionsTo) later.units later.outcomes := by
  obtain ⟨earlier, hearlier⟩ := exists_sampleTask_yields
  obtain ⟨later, final, hlater, htold, -⟩ := exists_importingTask_yields
  refine ⟨earlier, later, final, hearlier, hlater, htold, ?_⟩
  exact outcomes_of_consecutive_runs fair_sampleTask_sampleStart hearlier rfl
    fair_importingTask_sampleStored hlater

/-- An import that breaks the source of a unit is not noticed once the unit has passed: the next run
gives the unit the pass that was stored, though its source has errors now. -/
theorem cached_pass_of_changed_imports :
    ∃ earlier later final,
      (({} : Pipeline).run (.reading objection) sampleTask).Yields sampleStart earlier
        sampleStored ∧
      (({} : Pipeline).run (.reading objection) importingTask).Yields sampleStored later final ∧
      ¬ List.Forall₂ (fun sourceUnit outcome =>
        outcome.errors = objectionsTo sourceUnit.source sourceUnit.fileName)
        later.units later.outcomes := by
  obtain ⟨earlier, hearlier⟩ := exists_sampleTask_yields
  obtain ⟨later, final, hlater, htold, hunits⟩ := exists_importingTask_yields
  refine ⟨earlier, later, final, hearlier, hlater, fun hall => ?_⟩
  -- if each outcome had the errors of its source, both lists would be the same
  have hsame : later.outcomes.map Outcome.errors =
      later.units.map fun sourceUnit => objectionsTo sourceUnit.source sourceUnit.fileName := by
    rw [← List.forall₂_eq_eq_eq, List.forall₂_map_left_iff, List.forall₂_map_right_iff]
    exact hall.flip.imp fun _ _ h => h
  have herrors : later.outcomes.map Outcome.errors = [[]] := by
    have h := congrArg (List.map Prod.snd) htold
    rwa [told, List.map_map] at h
  rw [herrors, hunits] at hsame
  exact absurd hsame (by decide)

end SnippetCheck
