import SnippetCheck.Proofs.Compiler.Session
import SnippetCheck.Proofs.Run.Phase
import SnippetCheck.Proofs.State.Cache

/-!
# The Compile Phase

A unit's outcome is taken from the loaded cache if that knows the hash of its content, and from the
unit's own process otherwise: `settle`. When class names are distinct, the phase settles every unit
(`outcomes_map_pending`), and `compile_postcondition` says what a phase that succeeds has found,
run and stored.
-/

namespace SnippetCheck

open Action
open Compiler.Session (freshResults)

namespace Phase

variable {machine : Machine} {run next : Run} {start final : Workspace}

/-- The cache that a compile phase goes by: the stored one for the SDK version, unless it is
forgotten first or cannot be used. -/
def loadedCache (task : Task) (workspace : Workspace) : Cache :=
  if task.cleanCache || task.mode = .capture then .empty
  else (Cache.load workspace task.paths.cacheFile task.version).toOption.getD .empty

/-- The outcome for a unit: what the cache knows of its content, else what was found now. -/
def settle (cache : Cache) (found : SourceUnit → List String) (sourceUnit : SourceUnit) :
    Outcome :=
  match cache.get? sourceUnit.snippet.hash with
  | some errors => outcomeOf sourceUnit errors true
  | none => outcomeOf sourceUnit (found sourceUnit) false

/-- A settled unit has the hash of its content. -/
@[simp]
theorem hash_settle (cache : Cache) (found : SourceUnit → List String) (sourceUnit : SourceUnit) :
    (settle cache found sourceUnit).hash = sourceUnit.snippet.hash := by
  unfold settle
  split <;> rfl

/-- A settled unit that is not cached has the errors that were found for it. -/
theorem errors_settle {cache : Cache} {found : SourceUnit → List String} {sourceUnit : SourceUnit}
    (h : (settle cache found sourceUnit).cached = false) :
    (settle cache found sourceUnit).errors = found sourceUnit := by
  unfold settle at h ⊢
  split at h
  next => cases h
  next => rfl

/-- Pending units are some of the units, in their order. -/
theorem pending_sublist (cache : Cache) (units : List SourceUnit) :
    (pending cache units).Sublist units :=
  List.filter_sublist

/-! ## Outcomes -/

/-- A result has the class name of one of the units that it was found for. -/
private theorem exists_mem_of_mem_freshResults {found : SourceUnit → List String}
    {units : List SourceUnit} {result : String × List String}
    (h : result ∈ freshResults found units) : result.1 ∈ units.map SourceUnit.className := by
  obtain ⟨sourceUnit, hmem, rfl⟩ := List.mem_map.1 h
  exact List.mem_map_of_mem hmem

/-- There is no result for a class name that no unit has. -/
private theorem lookup_freshResults_eq_none {found : SourceUnit → List String} {name : String}
    {units : List SourceUnit} (h : name ∉ units.map SourceUnit.className) :
    (freshResults found units).reverse.lookup name = none := by
  rw [List.lookup_eq_none_iff]
  intro result hresult
  rw [bne_iff_ne]
  rintro rfl
  exact h (exists_mem_of_mem_freshResults (List.mem_reverse.1 hresult))

/-- When class names are distinct, every unit is settled: the results of the pending units come
to stand at the units that they were found for. -/
theorem outcomes_map_pending (cache : Cache) (found : SourceUnit → List String)
    {units : List SourceUnit} (hnames : (units.map SourceUnit.className).Nodup) :
    outcomes cache units (freshResults found (pending cache units)) =
      units.map (settle cache found) := by
  induction units with
  | nil => rfl
  | cons sourceUnit units ih =>
    obtain ⟨hname, hrest⟩ := List.nodup_cons.1 hnames
    have hpending : sourceUnit.className ∉ (pending cache units).map SourceUnit.className :=
      fun hmem => hname (((pending_sublist cache units).map _).subset hmem)
    have hlookup : (freshResults found (pending cache units)).reverse.lookup
        sourceUnit.className = none := lookup_freshResults_eq_none hpending
    cases hcache : cache.get? sourceUnit.snippet.hash with
    | some errors =>
      have hskip : pending cache (sourceUnit :: units) = pending cache units := by
        simp [pending, hcache]
      rw [hskip, outcomes, hlookup, hcache, List.map_cons, ih hrest, settle, hcache]
      rfl
    | none =>
      have htake : pending cache (sourceUnit :: units) = sourceUnit :: pending cache units := by
        simp [pending, hcache]
      -- the unit's own result is the only one under its name, and is used up by it
      have hfirst : ((sourceUnit.className, found sourceUnit) ::
          freshResults found (pending cache units)).reverse.lookup sourceUnit.className =
            some (found sourceUnit) := by
        rw [List.reverse_cons, List.lookup_append, hlookup]
        simp
      have hkept : ((sourceUnit.className, found sourceUnit) ::
          freshResults found (pending cache units)).filter
            (fun result => result.1 ≠ sourceUnit.className) =
          freshResults found (pending cache units) := by
        rw [List.filter_cons_of_neg (by simp), List.filter_eq_self]
        intro result hresult
        rw [decide_eq_true_eq]
        rintro heq
        exact hpending (heq ▸ exists_mem_of_mem_freshResults hresult)
      rw [htake, freshResults, List.map_cons, ← freshResults, outcomes, hfirst]
      dsimp only
      rw [hkept, ih hrest, List.map_cons, settle, hcache]

/-- Of two units with one class name, the second is taken for a cached pass, whatever was found. -/
example (first second : Snippet) (errors : List String) :
    outcomes .empty [⟨first, "A", "", "java"⟩, ⟨second, "A", "", "java"⟩]
      [("A", errors), ("A", errors)] =
        [outcomeOf ⟨first, "A", "", "java"⟩ errors false,
          outcomeOf ⟨second, "A", "", "java"⟩ [] true] := rfl

/-! ## The cache that is loaded -/

/-- Once the cache is forgotten if that was asked for, the one that can be loaded is the one to
go by. -/
theorem getD_load_of_forgetCache {task : Task} {forgotten : Workspace} {value : Unit}
    (h : (forgetCache task).Yields start value forgotten) :
    (Cache.load forgotten task.paths.cacheFile task.version).toOption.getD .empty =
      loadedCache task start := by
  unfold forgetCache at h
  unfold loadedCache
  split at h
  next hforget =>
    rw [if_pos hforget]
    -- a forgotten cache cannot be loaded, so that the empty one is taken
    obtain ⟨present, between, hremove, hvalue⟩ := yields_bind.1 h
    obtain ⟨rfl, rfl⟩ := yields_pure.1 hvalue
    cases hload : Cache.load forgotten task.paths.cacheFile task.version with
    | error error => rfl
    | ok cache =>
      obtain ⟨text, htext, -⟩ := Cache.load_eq_ok.1 hload
      exact absurd htext (readText_ne_ok_of_removeFileIfPresent hremove)
  next hforget =>
    rw [if_neg hforget]
    obtain ⟨rfl, rfl⟩ := yields_pure.1 h
    rfl

/-! ## The phase as a whole -/

/-- A compile phase that succeeds forgets the cache if asked to, compiles what the cache does not
know, and stores the outcomes. -/
theorem compile_perform_yields (h : ((compile machine).perform run).Yields start next final) :
    ∃ forgotten fresh compiled diagnostics,
      (forgetCache run.task).Yields start () forgotten ∧
      (run.task.session.compile machine run.task.version
        (pending (loadedCache run.task start) run.units)).Yields forgotten fresh compiled ∧
      ((cacheOf next.outcomes).save run.task.paths.cacheFile run.task.version).Yields
        compiled () final ∧
      next = { run with
        outcomes := outcomes (loadedCache run.task start) run.units fresh, diagnostics } := by
  obtain ⟨_, forgotten, hforget, hrest⟩ := yields_bind.1 h
  rw [yields_describing] at hforget
  have hrest := yields_get_bind.1 hrest
  dsimp only at hrest
  -- what is loaded after forgetting is what the phase goes by
  rw [orWarn_eq, getD_load_of_forgetCache hforget] at hrest
  obtain ⟨fresh, compiled, hcompile, hrest⟩ := yields_bind.1 hrest
  obtain ⟨_, stored, hsave, hnext⟩ := yields_bind.1 hrest
  obtain ⟨rfl, rfl⟩ := yields_pure.1 hnext
  exact ⟨forgotten, fresh, compiled, _, hforget, yields_describing.1 hcompile,
    yields_describing.1 hsave, rfl⟩

/-- Forgetting the cache does not move the working directory. -/
private theorem keeps_forgetCache_cwd (task : Task) (cwd : Files.Location) :
    (forgetCache task).Keeps fun workspace => workspace.cwd = cwd :=
  .forgetCache fun _ => .removeFileIfPresent fun _ _ hstart _ => hstart

/-- A compile phase that succeeds does not move the working directory, and leaves the cache of its
outcomes in the cache file. -/
theorem fileAt?_of_compile (h : ((compile machine).perform run).Yields start next final) :
    final.cwd = start.cwd ∧
      final.files.fileAt? (Files.target start.cwd run.task.paths.cacheFile) =
        some ((cacheOf next.outcomes).toText run.task.version).toUTF8 := by
  obtain ⟨forgotten, fresh, compiled, _, hforget, hcompile, hsave, -⟩ := compile_perform_yields h
  have hforgotten := (keeps_forgetCache_cwd run.task start.cwd).of_yields hforget rfl
  have hkeeps : (run.task.session.compile machine run.task.version
      (pending (loadedCache run.task start) run.units)).Keeps
        fun workspace => workspace.cwd = start.cwd := by
    refine Compiler.Session.keeps_compile (fun _ _ _ hstart => hstart)
      (fun _ _ _ hstart => hstart) (fun origin horigin => ?_) _
    exact (keeps_makeDirectories _ _ origin (.refl origin origin.cwd)).cwd.trans horigin
  have hcompiled := hkeeps.of_yields hcompile hforgotten
  obtain ⟨hcwd, -, hfile⟩ := reads_of_writeText hsave
  rw [hcompiled] at hcwd hfile
  exact ⟨hcwd, hfile⟩

/-- The cache of some outcomes is canonical. -/
theorem canonical_cacheOf (outcomes : List Outcome) : (cacheOf outcomes).Canonical :=
  Cache.canonical_ofList _

/-- The cache of some outcomes gives for a hash the errors of the last outcome with it. -/
theorem get?_cacheOf (outcomes : List Outcome) (hash : ContentHash) :
    (cacheOf outcomes).get? hash =
      (outcomes.reverse.find? fun outcome => outcome.hash = hash).map Outcome.errors := by
  rw [cacheOf, Cache.get?_ofList, ← List.map_reverse, List.find?_map, Option.map_map]
  rfl

/-- What is stored for a hash is what was found for the last outcome with it. -/
theorem get?_cacheOf_append {before after : List Outcome} {outcome : Outcome}
    (h : ∀ later ∈ after, later.hash ≠ outcome.hash) :
    (cacheOf (before ++ outcome :: after)).get? outcome.hash = some outcome.errors := by
  rw [get?_cacheOf, List.reverse_append, List.reverse_cons, List.append_assoc,
    List.find?_append]
  have hnone : after.reverse.find? (fun other => other.hash = outcome.hash) = none := by
    simpa using h
  simp [hnone]

/-- What the cache of some outcomes gives for a hash was found for the last outcome with it. -/
theorem exists_of_get?_cacheOf {outcomes : List Outcome} {hash : ContentHash}
    {errors : List String} (h : (cacheOf outcomes).get? hash = some errors) :
    ∃ before outcome after, outcomes = before ++ outcome :: after ∧ outcome.hash = hash ∧
      outcome.errors = errors ∧ ∀ later ∈ after, later.hash ≠ hash := by
  rw [get?_cacheOf, Option.map_eq_some_iff] at h
  obtain ⟨outcome, hfind, herrors⟩ := h
  obtain ⟨hhash, after, before, hsplit, hafter⟩ := List.find?_eq_some_iff_append.1 hfind
  refine ⟨before.reverse, outcome, after.reverse, ?_, by simpa using hhash, herrors, ?_⟩
  · rw [← List.reverse_reverse outcomes, hsplit]
    simp
  · intro later hlater
    simpa using hafter later (List.mem_reverse.1 hlater)

/-- The cache of some outcomes knows just their hashes. -/
theorem isSome_get?_cacheOf (outcomes : List Outcome) (hash : ContentHash) :
    ((cacheOf outcomes).get? hash).isSome = true ↔ hash ∈ outcomes.map Outcome.hash := by
  rw [cacheOf, Cache.isSome_get?_ofList, List.map_map]
  rfl

/-- The outcome that a compile phase owes a unit. It is about this unit; it is cached just when the
cache knows the unit's hash, and has the stored errors then; else it has those of the unit's own
process, and none just when that process succeeded. -/
structure Owed (cache : Cache) (session : Compiler.Session) (process : SourceUnit → Finished)
    (sourceUnit : SourceUnit) (outcome : Outcome) : Prop where
  id : outcome.id = sourceUnit.snippet.id
  className : outcome.className = sourceUnit.className
  hash : outcome.hash = sourceUnit.snippet.hash
  cached : outcome.cached = (cache.get? sourceUnit.snippet.hash).isSome
  stored : ∀ errors, cache.get? sourceUnit.snippet.hash = some errors → outcome.errors = errors
  compiled : outcome.cached = false →
    outcome.errors = session.resultFor sourceUnit (process sourceUnit)
  passed : outcome.cached = false →
    (outcome.errors = [] ↔ (process sourceUnit).status.isSuccess = true)

/-- A settled unit has the outcome that it is owed. -/
theorem owed_settle (cache : Cache) (session : Compiler.Session)
    (process : SourceUnit → Finished) (sourceUnit : SourceUnit) :
    Owed cache session process sourceUnit (settle cache
      (fun sourceUnit => session.resultFor sourceUnit (process sourceUnit)) sourceUnit) := by
  unfold settle
  split
  next errors hcache =>
    exact {
      id := rfl
      className := rfl
      hash := rfl
      cached := by rw [hcache]; rfl
      stored := fun other hother => Option.some.inj (hcache.symm.trans hother)
      compiled := nofun
      passed := nofun }
  next hcache =>
    exact {
      id := rfl
      className := rfl
      hash := rfl
      cached := by rw [hcache]; rfl
      stored := fun other hother => by rw [hcache] at hother; cases hother
      compiled := fun _ => rfl
      passed := fun _ => Compiler.resultOf_eq_nil _ _ _ }

/-- The hashes of settled units are those of the units. -/
theorem map_hash_settle (cache : Cache) (found : SourceUnit → List String)
    (units : List SourceUnit) :
    (units.map (settle cache found)).map Outcome.hash =
      units.map fun sourceUnit => sourceUnit.snippet.hash := by
  simp

/-- A compile phase that succeeds on units with distinct class names gives every unit, in order,
the outcome that it is owed. After the cache was forgotten if that was asked for, and after the
session has prepared if anything is pending, one process runs for each pending unit, and nothing
else is launched. The cache that is stored knows just the hashes of the units, and gives for each
what was found for the last unit with it. -/
theorem compile_postcondition (hnames : (run.units.map SourceUnit.className).Nodup)
    (h : ((compile machine).perform run).Yields start next final) :
    let cache := loadedCache run.task start
    let session := run.task.session
    ∃ (process : SourceUnit → Finished) (classpath : String)
        (forgotten prepared compiled : Workspace) (saved : Cache),
      List.Forall₂ (Owed cache session process) run.units next.outcomes ∧
      (forgetCache run.task).Yields start () forgotten ∧
      (pending cache run.units = [] → prepared = forgotten) ∧
      (pending cache run.units ≠ [] →
        (session.prepare machine run.task.version).Yields forgotten classpath prepared) ∧
      Workspace.Ran machine prepared ((pending cache run.units).map fun sourceUnit =>
        (session.unitCommand classpath sourceUnit, process sourceUnit)) compiled ∧
      final.launches = compiled.launches ∧
      Cache.load final run.task.paths.cacheFile run.task.version = .ok saved ∧
      (∀ hash, (saved.get? hash).isSome = true ↔
        hash ∈ run.units.map fun sourceUnit => sourceUnit.snippet.hash) ∧
      ∀ before outcome after, next.outcomes = before ++ outcome :: after →
        (∀ later ∈ after, later.hash ≠ outcome.hash) →
        saved.get? outcome.hash = some outcome.errors := by
  intro cache session
  obtain ⟨forgotten, fresh, compiled, diagnostics, hforget, hcompile, hsave, rfl⟩ :=
    compile_perform_yields h
  -- class names tell the pending units apart
  have hnodup : (pending cache run.units).Nodup :=
    (List.Nodup.of_map _ hnames).sublist (pending_sublist cache run.units)
  obtain ⟨process, classpath, prepared, hnone, hprepare, rfl, hran⟩ :=
    Compiler.Session.compile_yields hnodup hcompile
  have houtcomes := outcomes_map_pending cache
    (fun sourceUnit => session.resultFor sourceUnit (process sourceUnit)) hnames
  dsimp only at hsave ⊢
  rw [houtcomes] at hsave ⊢
  -- what was stored can be loaded again
  obtain ⟨-, hread, -⟩ := reads_of_writeText hsave
  refine ⟨process, classpath, forgotten, prepared, compiled, _, ?_, hforget, hnone, hprepare, hran,
    launches_of_writeText hsave, Cache.load_of_readText (canonical_cacheOf _) hread, ?_, ?_⟩
  · rw [List.forall₂_map_right_iff]
    exact List.forall₂_same.2 fun sourceUnit _ => owed_settle cache session process sourceUnit
  · intro hash
    exact (isSome_get?_cacheOf _ hash).trans (by rw [map_hash_settle])
  · intro before outcome after heq hlater
    rw [heq]
    exact get?_cacheOf_append hlater

/-- A machine whose compiler fails for the source of class B, without a word. -/
def failingForB : Machine where
  run command _ files :=
    let status := if command.args.getLast? = some "gen/B.java" then .code 1 else .code 0
    (some ⟨status, [], []⟩, files)

/-- An SDK version. -/
def sampleVersion : SdkVersion :=
  ⟨"1", by decide, by decide⟩

/-- A run with three units. The second and the third have the same content. -/
def threeUnits : Run where
  task := {
    settings := { Settings.default .java with baseSource := "Base.java" }
    classpath := ⟨none, ["sdk.jar"]⟩
    toolchain := ⟨"javac", []⟩
    root := ""
    docs := []
    extensions := []
    paths := ⟨"gen", "classes", "cache.json", "baseline.json"⟩
    version := sampleVersion }
  units := [⟨⟨⟨"a.md", 0⟩, "a"⟩, "A", "a", "java"⟩, ⟨⟨⟨"a.md", 1⟩, "b"⟩, "B", "b", "java"⟩,
    ⟨⟨⟨"a.md", 2⟩, "b"⟩, "C", "b", "java"⟩]

/-- A workspace whose cache knows that the content of the first unit fails. -/
def knowingTheFirst : Workspace where
  files := ⟨[(["Base.java"], .file "".toUTF8),
    (["cache.json"], .file ((Cache.ofList [(.of "a", ["  line 1: old"])]).toText
      threeUnits.task.version).toUTF8)]⟩

set_option maxRecDepth 100000 in
/-- The phase succeeds with a hit, a failure and a pass, the last two for one content. -/
theorem compile_postcondition_threeUnits :
    (threeUnits.units.map SourceUnit.className).Nodup ∧
    ∃ next final, ((compile failingForB).perform threeUnits).Yields knowingTheFirst next final ∧
      ∃ process saved,
        List.Forall₂ (Owed (loadedCache threeUnits.task knowingTheFirst) threeUnits.task.session
          process) threeUnits.units next.outcomes ∧
        Cache.load final "cache.json" threeUnits.task.version = .ok saved := by
  have hnames : (threeUnits.units.map SourceUnit.className).Nodup := by decide
  obtain ⟨next, final, hyields⟩ := exists_yields
    (show (((compile failingForB).perform threeUnits).exec knowingTheFirst).1.isOk = true by
      decide +kernel)
  obtain ⟨process, _, _, _, _, saved, howed, _, _, _, _, _, hload, _⟩ :=
    compile_postcondition hnames hyields
  exact ⟨hnames, next, final, hyields, process, saved, howed, hload⟩

end Phase

end SnippetCheck
