import SnippetCheck.Proofs.Run.Passage

/-!
# Runs That The Cache Serves

A normal run is served when its cache file holds a cache that knows every unit that the run can come
to (`Task.Served`). Such a run launches nothing, whatever the compiler is, and nothing but its files
can stop it (`Task.Served.ends`). When it succeeds, all its outcomes were recalled from that cache
(`Task.Served.outcomes_eq`).
-/

namespace SnippetCheck

open Action Files Workspace Phase

variable {machine : Machine} {task : Task} {cache : Cache} {start final : Workspace} {run : Run}

namespace Phase

/-! ## Recalling outcomes -/

/-- The outcome for a unit that is recalled from a cache. -/
def recalled (cache : Cache) (sourceUnit : SourceUnit) : Outcome :=
  outcomeOf sourceUnit ((cache.get? sourceUnit.snippet.hash).getD []) true

/-- Where nothing was found, outcomes are recalled. -/
theorem outcomes_nil (cache : Cache) (units : List SourceUnit) :
    outcomes cache units [] = units.map (recalled cache) := by
  induction units with
  | nil => rfl
  | cons sourceUnit units ih =>
    rw [outcomes, List.map_cons, ← ih]
    rfl

/-- A canonical cache that knows just the contents of some units is the cache of what is recalled
for them. -/
theorem cacheOf_map_recalled {units : List SourceUnit} (hcanonical : cache.Canonical)
    (hknown : ∀ hash, (cache.get? hash).isSome = true ↔
      hash ∈ units.map fun sourceUnit => sourceUnit.snippet.hash) :
    cacheOf (units.map (recalled cache)) = cache := by
  refine (canonical_cacheOf _).eq_of_get?_eq hcanonical fun hash => ?_
  have hhashes : (units.map (recalled cache)).map Outcome.hash =
      units.map fun sourceUnit => sourceUnit.snippet.hash := by
    rw [List.map_map]
    rfl
  have hsome := isSome_get?_cacheOf (units.map (recalled cache)) hash
  rw [hhashes, ← hknown] at hsome
  cases hget : (cacheOf (units.map (recalled cache))).get? hash with
  | none =>
    rw [hget] at hsome
    exact (Option.not_isSome_iff_eq_none.1 fun h => nomatch hsome.2 h).symm
  | some errors =>
    rw [hget] at hsome
    obtain ⟨found, hfound⟩ := Option.isSome_iff_exists.1 (hsome.1 rfl)
    -- the last outcome with this hash has the errors that the cache knows
    obtain ⟨before, outcome, after, hsplit, hhash, rfl, -⟩ := exists_of_get?_cacheOf hget
    have hmem : outcome ∈ units.map (recalled cache) := by simp [hsplit]
    obtain ⟨sourceUnit, -, rfl⟩ := List.mem_map.1 hmem
    have hunit : sourceUnit.snippet.hash = hash := hhash
    simp [recalled, outcomeOf, hunit, hfound]

/-! ## Phases of a served run -/

/-- Why an action fails whose failures are described anew. -/
private theorem exists_of_exec_describing {ε δ α : Type} {action : Action ε α} {describe : ε → δ}
    {error : δ} {between : Workspace}
    (h : (action.describing describe).exec start = (.error error, between)) :
    ∃ cause, error = describe cause ∧ action.exec start = (.error cause, between) := by
  rw [exec_describing] at h
  rcases hexec : action.exec start with ⟨cause | value, other⟩
  · rw [hexec] at h
    obtain ⟨herror, rfl⟩ := Prod.mk.inj h
    exact ⟨cause, (Except.error.inj herror).symm, rfl⟩
  · rw [hexec] at h
    cases (Prod.mk.inj h).1

/-- Once every directory of documents is there, only files can stop extracting. -/
theorem exists_of_exec_extract {error : RunError} (hroots : missingRoots task start = [])
    (h : (extract.perform { task }).exec start = (.error error, final)) :
    ∃ cause, error = .files cause := by
  unfold extract at h
  rw [exec_get_bind] at h
  dsimp only at h
  rw [hroots] at h
  -- nothing was noted, so that all depends on the documents
  rw [if_pos (show (noteMissing { task } []).errors.isEmpty = true from rfl)] at h
  split at h
  · cases (Prod.mk.inj h).1
  next cause _ => exact ⟨cause, (Except.error.inj (Prod.mk.inj h).1).symm⟩

/-- Leaving out accepted failures does not fail. -/
theorem exec_filterBaseline_ne_error {error : RunError} :
    (filterBaseline.perform run).exec start ≠ (.error error, final) := by
  unfold filterBaseline
  dsimp only
  intro h
  split at h
  · cases (Prod.mk.inj h).1
  · rw [exec_get_bind] at h
    cases (Prod.mk.inj h).1

/-- Nothing but files can stop generating. -/
theorem exists_of_exec_generate {error : RunError}
    (h : (generate.perform run).exec start = (.error error, final)) :
    ∃ cause, error = .files cause := by
  unfold generate at h
  dsimp only at h
  rw [exec_bind] at h
  split at h
  · cases (Prod.mk.inj h).1
  next cause _ hreplace =>
    obtain ⟨cause, hcause, -⟩ := exists_of_exec_describing hreplace
    exact ⟨cause, by rw [← Except.error.inj (Prod.mk.inj h).1, hcause]⟩

/-- With a cache that knows every unit, compiling is to store what is recalled. -/
theorem exec_compile_of_known (hmode : run.task.mode = .normal)
    (hclean : run.task.cleanCache = false)
    (hload : Cache.load start run.task.paths.cacheFile run.task.version = .ok cache)
    (hknown : pending cache run.units = []) :
    ((compile machine).perform run).exec start =
      (do
        ((cacheOf (run.units.map (recalled cache))).save run.task.paths.cacheFile
          run.task.version).describing .files
        return { run with outcomes := run.units.map (recalled cache) } :
          Action RunError Run).exec start := by
  have hforget : forgetCache run.task = pure () := by simp [forgetCache, hmode, hclean]
  unfold compile
  dsimp only
  rw [hforget, exec_bind, exec_describing, exec_pure]
  show exec (get >>= _) start = _
  rw [exec_get_bind, hload]
  show exec (Action.describing _ (run.task.session.compile machine run.task.version
    (pending cache run.units)) >>= _) start = _
  rw [hknown, Compiler.Session.compile_nil, exec_bind, exec_describing, exec_pure]
  rw [← outcomes_nil]
  rfl

/-- Capturing does nothing in a normal run. -/
theorem exec_captureBaseline_of_normal (hmode : run.task.mode = .normal) :
    (captureBaseline.perform run).exec start = (.ok run, start) := by
  rw [captureBaseline_perform_of_normal hmode, exec_pure]

end Phase

/-! ## Served runs -/

/-- A normal run is served by a cache: its cache file holds this cache, and the cache knows every
unit that the run can come to. -/
structure Task.Served (task : Task) (cache : Cache) (start : Workspace) : Prop where
  mode : task.mode = .normal
  clean : task.cleanCache = false
  sited : task.Sited start.cwd
  canonical : cache.Canonical
  reads : start.readText task.paths.cacheFile = .ok (cache.toText task.version)
  known : ∀ snippets, task.extraction.run start = .ok snippets →
    pending cache (consideredUnits task start snippets) = []

/-- Since a run has started, nothing was launched, and its cache file is read as the text. -/
def Workspace.Quiet (start : Workspace) (path text : String) (workspace : Workspace) : Prop :=
  (workspace.cwd = start.cwd ∧ workspace.launches = start.launches) ∧
    Reads start.cwd path text workspace

/-- The cache file holds the text still. -/
theorem Workspace.Quiet.fileAt?_eq {path text : String} {workspace : Workspace}
    (h : start.Quiet path text workspace) :
    workspace.files.fileAt? (target start.cwd path) = some text.toUTF8 := by
  rw [← h.2.1]
  exact Tree.fileAt?_of_readText h.2.2

/-- How a served run ends: nothing was launched, the cache file is as `property` says, and if the
run has stopped, files have stopped it. -/
structure Task.EndsQuietly (task : Task) (start : Workspace) (property : Option ByteArray → Prop)
    (result : Except RunError Run) (workspace : Workspace) : Prop where
  launches : workspace.launches = start.launches
  file : property (workspace.files.fileAt? (target start.cwd task.paths.cacheFile))
  stopped : ∀ error, result = .error error → missingRoots task start = [] →
    ∃ cause, error = .files cause

namespace Task.Served

/-- The cache is loaded as long as its file is read as at the start. -/
theorem load_eq (hserved : task.Served cache start) {workspace : Workspace}
    (h : start.Quiet task.paths.cacheFile (cache.toText task.version) workspace) :
    Cache.load workspace task.paths.cacheFile task.version = .ok cache :=
  Cache.load_of_readText hserved.canonical h.2.2

/-- As long as the cache file is read as at the start, a run that stops because of its files ends
quietly. -/
theorem endsQuietly_of_quiet {property : Option ByteArray → Prop}
    (hstart : property (some (cache.toText task.version).toUTF8)) {result : Except RunError Run}
    {workspace : Workspace}
    (h : start.Quiet task.paths.cacheFile (cache.toText task.version) workspace)
    (hstopped : ∀ error, result = .error error → missingRoots task start = [] →
      ∃ cause, error = .files cause) : task.EndsQuietly start property result workspace where
  launches := h.1.2
  file := by rwa [h.fileAt?_eq]
  stopped := hstopped

/-- Replacing units of a served run is quiet. -/
theorem keeps_replaceUnits (hserved : task.Served cache start) (snippets : List Snippet)
    (text : String) :
    (replaceUnits task.paths task.language (consideredUnits task start snippets)).Keeps
      (start.Quiet task.paths.cacheFile text) :=
  ((fileless_cwd_launches _ _).replaceUnits _ _ _).and <|
    keeps_replaceUnits_reads hserved.sited.extension_ne hserved.sited.cache
      fun _ => SourceUnit.wellNamed_of_mem_ofSnippets

/-- When a served run has succeeded, all its outcomes were recalled from the cache. -/
theorem outcomes_eq (hserved : task.Served cache start)
    (passage : Passage machine task start run final) :
    run.outcomes = run.units.map (recalled cache) := by
  have hloaded := passage.loadedCache_eq hserved.sited hserved.mode hserved.clean
    hserved.canonical hserved.reads
  have hcompile := passage.compiles
  rw [hloaded, passage.units_eq, hserved.known passage.snippets passage.extraction_eq] at hcompile
  rw [passage.outcomes_eq, hloaded, (yields_pure.1 hcompile).1, outcomes_nil]

/-- Since a run has started, nothing was launched, and its cache file is as `property` says. -/
private def Holds (task : Task) (start : Workspace) (property : Option ByteArray → Prop)
    (workspace : Workspace) : Prop :=
  (workspace.cwd = start.cwd ∧ workspace.launches = start.launches) ∧
    workspace.cwd = start.cwd ∧
      property (workspace.files.fileAt? (target start.cwd task.paths.cacheFile))

/-- Storing a text in the cache file launches nothing. -/
private theorem keeps_writeText_holds {property : Option ByteArray → Prop} {content : String}
    (hcontent : property (some content.toUTF8)) :
    (writeText task.paths.cacheFile content).Keeps (Holds task start property) :=
  ((fileless_cwd_launches _ _).writeText _ _).and (keeps_writeText_of_content hcontent)

/-- Once its units have been generated, a served run ends quietly. -/
private theorem ends_of_generated (hserved : task.Served cache start) (machine : Machine)
    {snippets : List Snippet} (hsnippets : task.extraction.run start = .ok snippets)
    (diagnostics : List Diagnostic) {property : Option ByteArray → Prop}
    (hstart : property (some (cache.toText task.version).toUTF8))
    (hstored : property (some ((cacheOf ((consideredUnits task start snippets).map
      (recalled cache))).toText task.version).toUTF8)) {generated : Workspace}
    (hquiet : start.Quiet task.paths.cacheFile (cache.toText task.version) generated) :
    let rest := (Pipeline.performAll [.work (compile machine), .work captureBaseline]
      (readyRun task start snippets diagnostics)).run generated
    task.EndsQuietly start property rest.1.result rest.2 := by
  -- every unit is known, so that compiling is to store what is recalled
  have hcompile : ((compile machine).perform (readyRun task start snippets diagnostics)).exec
      generated = _ :=
    exec_compile_of_known hserved.mode hserved.clean (hserved.load_eq hquiet)
      (hserved.known snippets hsnippets)
  have hgenerated : Holds task start property generated := by
    refine ⟨hquiet.1, hquiet.2.1, ?_⟩
    rw [hquiet.fileAt?_eq]
    exact hstart
  have hcompiles := (Keeps.describing RunError.files (keeps_writeText_holds hstored)).bind
    (fun _ => Keeps.pure { readyRun task start snippets diagnostics with
      outcomes := (consideredUnits task start snippets).map (recalled cache) }) generated hgenerated
  have hfinal : Holds task start property (((compile machine).perform
      (readyRun task start snippets diagnostics)).exec generated).2 := by
    rw [hcompile]
    exact hcompiles
  dsimp only
  refine Pipeline.ends_performAll_cons (fun error final hfail => ?_)
    fun compiled last hsucceed => ?_
  · change ((compile machine).perform _).exec generated = _ at hfail
    rw [hfail] at hfinal
    refine ⟨hfinal.1.2, hfinal.2.2, fun other hother _ => ?_⟩
    obtain rfl := Except.error.inj hother
    rw [hcompile, exec_bind] at hfail
    split at hfail
    · cases (Prod.mk.inj hfail).1
    next hcause =>
      obtain ⟨cause, rfl, -⟩ := exists_of_exec_describing hcause
      exact ⟨cause, (Except.error.inj (Prod.mk.inj hfail).1).symm⟩
  · change ((compile machine).perform _).exec generated = _ at hsucceed
    obtain ⟨_, _, _, _, _, _, _, hcompiled⟩ := compile_perform_yields hsucceed
    rw [hsucceed] at hfinal
    -- nothing is captured
    have hcapture : ((Event.work captureBaseline).perform compiled).exec last =
        (.ok compiled, last) :=
      exec_captureBaseline_of_normal (by rw [hcompiled]; exact hserved.mode)
    refine Pipeline.ends_performAll_cons (fun error final hfail => ?_) fun ended _ hend => ?_
    · cases hcapture.symm.trans hfail
    · obtain ⟨-, rfl⟩ := Prod.mk.inj (hcapture.symm.trans hend)
      exact ⟨hfinal.1.2, hfinal.2.2, nofun⟩

/-- A served run launches nothing and stores nothing but what it has recalled, whatever the compiler
is, and nothing but its files can stop it once its directories of documents are there. -/
theorem ends (hserved : task.Served cache start) (machine : Machine)
    (property : Option ByteArray → Prop)
    (hstart : property (some (cache.toText task.version).toUTF8))
    (hstored : ∀ snippets, task.extraction.run start = .ok snippets →
      property (some ((cacheOf ((consideredUnits task start snippets).map (recalled cache))).toText
        task.version).toUTF8)) :
    task.EndsQuietly start property ((({} : Pipeline).course machine task).run start).1.result
      ((({} : Pipeline).course machine task).run start).2 := by
  have hquiet : start.Quiet task.paths.cacheFile (cache.toText task.version) start :=
    ⟨⟨rfl, rfl⟩, rfl, hserved.reads⟩
  unfold Pipeline.course
  rw [Pipeline.schedule_default]
  -- extracting and leaving out accepted failures change nothing
  refine Pipeline.ends_performAll_cons (fun error final hextract => ?_)
    fun extracted first hextract => ?_
  · have hsame := exec_extract { task } start
    change (extract.perform { task }).exec start = _ at hextract
    rw [hextract] at hsame
    cases hsame
    refine endsQuietly_of_quiet hstart hquiet fun other hother hroots => ?_
    obtain rfl := Except.error.inj hother
    exact exists_of_exec_extract hroots hextract
  refine Pipeline.ends_performAll_cons (fun error final hfilter => ?_)
    fun filtered second hfilter => ?_
  · exact absurd hfilter exec_filterBaseline_ne_error
  obtain ⟨hfirst, snippets, diagnostics, hsnippets, hextracted⟩ := extract_perform_yields hextract
  obtain ⟨hsecond, later, hfiltered⟩ := filterBaseline_perform_yields hfilter
  obtain rfl := hfirst.symm
  obtain rfl := hsecond.symm
  rw [hextracted, leaveOut_eq rfl] at hfiltered
  have hgenerates : (generate.perform filtered).Keeps
      (start.Quiet task.paths.cacheFile (cache.toText task.version)) := by
    rw [hfiltered]
    exact keeps_generate_of_replaceUnits (hserved.keeps_replaceUnits snippets _)
  refine Pipeline.ends_performAll_cons (fun error final hgenerate => ?_)
    fun generated third hgenerate => ?_
  · have hfinal := hgenerates start hquiet
    change (generate.perform filtered).exec start = _ at hgenerate
    rw [hgenerate] at hfinal
    refine endsQuietly_of_quiet hstart hfinal fun other hother _ => ?_
    obtain rfl := Except.error.inj hother
    exact exists_of_exec_generate hgenerate
  -- every unit is known, so that compiling is to store what is recalled
  obtain ⟨other, noted, hother, rfl, -⟩ :=
    Pipeline.exists_readyRun_eq hextract hfilter hgenerate
  obtain rfl : other = snippets := Except.ok.inj (hother.symm.trans hsnippets)
  have hthird := hgenerates.of_yields hgenerate hquiet
  exact hserved.ends_of_generated machine hsnippets noted hstart (hstored other hsnippets) hthird

end Task.Served

end SnippetCheck
