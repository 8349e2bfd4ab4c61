import SnippetCheck.Run.Basic
import SnippetCheck.Run.Error
import SnippetCheck.State.Baseline
import SnippetCheck.State.Cache

/-!
# Phases

A run goes through five phases: the snippets are extracted; those whose failure is accepted
are left out; a unit is generated for each of the others; the units are compiled, as far as
the cache does not know their result; and, if failures are captured, the baseline is
written anew.
-/

namespace SnippetCheck

/-- A phase of a run. -/
structure Phase where
  /-- The name of the phase. -/
  name : String
  /-- What the phase does. -/
  perform : Run → Action RunError Run

namespace Phase

/-! ## Extracting -/

/-- The directories of documents that are missing. -/
def missingRoots (task : Task) (workspace : Workspace) : List String :=
  task.docs.filter fun docs => !workspace.isDirectory (Path.join task.root docs)

/-- Note the directories of documents that are missing. -/
def noteMissing (run : Run) (missing : List String) : Run :=
  { run with
    diagnostics := run.diagnostics ++ missing.map fun docs => {
      severity := .error
      phase := "extract"
      message := "documentation root not found"
      location := some docs } }

/-- Note that there is nothing to validate, if that is so. -/
def noteEmpty (run : Run) : Run :=
  if run.snippets.isEmpty then
    run.warn "extract" s!"no {run.task.language.displayName} snippets found"
  else run

/-- Find the snippets. -/
def extract : Phase where
  name := "extract"
  perform run := do
    let workspace ← get
    let missing := missingRoots run.task workspace
    let run := noteMissing run missing
    if run.errors.isEmpty then
      match run.task.extraction.run workspace with
      | .ok snippets => return noteEmpty { run with snippets }
      | .error error => throw (.files error)
    else throw (.extraction run.errors.length missing)

/-! ## Leaving out accepted failures -/

/-- Leave out the snippets whose failure a baseline accepts. -/
def leaveOut (baseline : Baseline) (run : Run) : Run :=
  if baseline.isEmpty then run
  else
    let snippets := run.snippets.filter fun snippet => !baseline.accepts snippet
    { run with snippets, skipped := run.snippets.length - snippets.length }

/-- What was loaded, or nothing in its place and a warning if that is worth one. -/
def orWarn (loaded : Except StateError α) (fallback : α) (phase : String) (run : Run) :
    α × Run :=
  match loaded with
  | .ok value => (value, run)
  | .error error => (fallback, if error.isFault then run.warn phase error.message else run)

/-- Leave out the snippets whose failure is accepted, unless failures are captured. -/
def filterBaseline : Phase where
  name := "baseline-filter"
  perform run := do
    match run.task.mode with
    | .capture => return run
    | .normal =>
      let loaded := Baseline.load (← get) run.task.paths.baselineFile
      let (baseline, run) := orWarn loaded .empty "baseline-filter" run
      return leaveOut baseline run

/-! ## Generating units -/

/-- Note the class names that several documents share. -/
def noteCollisions (run : Run) : Run :=
  let names := ClassName.collisions run.task.language.tag run.snippets
  { run with
    diagnostics := run.diagnostics ++ names.map fun name => {
      severity := .warning
      phase := "generate"
      message := "several documents map to the same class name; a path digest was appended"
      location := some name } }

/-- Write units to a directory. -/
def writeUnits (dir : String) : List SourceUnit → Action FileError Unit
  | [] => return ()
  | sourceUnit :: units => do
    Action.writeText (sourceUnit.pathIn dir) sourceUnit.source
    writeUnits dir units

/-- Replace the generated sources of a language by the given units, and remove its compiled
classes. -/
def replaceUnits (paths : LanguagePaths) (language : Language) (units : List SourceUnit) :
    Action FileError Unit := do
  let _ ← Action.removeFilesWithExtension paths.generatedDir language.extension
  let _ ← Action.removeDirectoryIfPresent paths.classesDir
  writeUnits paths.generatedDir units

/-- Write a unit for every snippet. -/
def generate : Phase where
  name := "generate"
  perform run := do
    let units := SourceUnit.ofSnippets run.task.settings run.snippets
    (replaceUnits run.task.paths run.task.language units).describing .files
    return { noteCollisions run with units }

/-! ## Compiling -/

/-- Remove the cache if the task asks for that. What is captured has to be compiled. -/
def forgetCache (task : Task) : Action FileError Unit := do
  if task.cleanCache || task.mode = .capture then
    let _ ← Action.removeFileIfPresent task.paths.cacheFile

/-- The units whose result a cache does not know. -/
def pending (cache : Cache) (units : List SourceUnit) : List SourceUnit :=
  units.filter fun sourceUnit => (cache.get? sourceUnit.snippet.hash).isNone

/-- The outcome for a unit. -/
def outcomeOf (sourceUnit : SourceUnit) (errors : List String) (cached : Bool) : Outcome where
  id := sourceUnit.snippet.id
  className := sourceUnit.className
  hash := sourceUnit.snippet.hash
  errors := errors
  cached := cached

/-- The outcomes for units, in order: what the compiler found now, else what the cache knows.
What was found for a class name is used once; of several results for one name, the last is. -/
def outcomes (cache : Cache) : List SourceUnit → List (String × List String) → List Outcome
  | [], _ => []
  | sourceUnit :: units, fresh =>
    match fresh.reverse.lookup sourceUnit.className with
    | some errors =>
      outcomeOf sourceUnit errors false ::
        outcomes cache units (fresh.filter fun result => result.1 ≠ sourceUnit.className)
    | none =>
      let errors := (cache.get? sourceUnit.snippet.hash).getD []
      outcomeOf sourceUnit errors true :: outcomes cache units fresh

/-- The cache of some outcomes. -/
def cacheOf (outcomes : List Outcome) : Cache :=
  Cache.ofList (outcomes.map fun outcome => (outcome.hash, outcome.errors))

/-- Find out what is wrong with each unit, and store it for the next run. -/
def compile (machine : Machine) : Phase where
  name := "compile"
  perform run := do
    let task := run.task
    (forgetCache task).describing .files
    let loaded := Cache.load (← get) task.paths.cacheFile task.version
    let (cache, run) := orWarn loaded .empty "compile" run
    let fresh ← (task.session.compile machine task.version
      (pending cache run.units)).describing .compile
    let outcomes := outcomes cache run.units fresh
    ((cacheOf outcomes).save task.paths.cacheFile task.version).describing .files
    return { run with outcomes }

/-! ## Capturing failures -/

/-- The baseline that accepts the failures among outcomes of units. -/
def captured (run : Run) : Baseline :=
  Baseline.ofList ((run.units.zip run.outcomes).filterMap fun (sourceUnit, outcome) =>
    if outcome.passed then none else some (.of sourceUnit.snippet))

/-- Store a baseline, or remove it if it accepts nothing. -/
def storeBaseline (path : String) (baseline : Baseline) : Action RunError BaselineUpdate := do
  if baseline.isEmpty then
    let _ ← (Action.removeFileIfPresent path).describing .files
    return .removed path
  else
    (baseline.save path).describing (.baseline path)
    return .written path baseline.size

/-- Write the failures of this run as the baseline, if they are captured. -/
def captureBaseline : Phase where
  name := "baseline-capture"
  perform run := do
    match run.task.mode with
    | .normal => return run
    | .capture =>
      let update ← storeBaseline run.task.paths.baselineFile (captured run)
      return { run with baseline := some update }

/-- The phases of every run, in order. -/
def all (machine : Machine) : List Phase :=
  [extract, filterBaseline, generate, compile machine, captureBaseline]

end Phase

end SnippetCheck
