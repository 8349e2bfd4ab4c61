import SnippetCheck.Cleaning
import SnippetCheck.Proofs.Run.Beside

/-!
# Operations

An operation validates the snippets of a language, or removes what validations of it have left. What
operations are carried out with is a site. When its places lie apart (`Site.Apart`) and its commands
are disciplined (`Site.Disciplined`), an operation on one language stays within the territory of
that language (`Site.within_perform`), and does not show what has been done within the territory of
the other one (`Site.beside_perform`).
-/

namespace SnippetCheck

open Action Files Workspace

/-- The paths of a language. -/
def LanguagePaths.all (paths : LanguagePaths) : List String :=
  [paths.generatedDir, paths.classesDir, paths.cacheFile, paths.baselineFile]

namespace LanguagePaths

variable (paths : LanguagePaths)

/-- The directory of generated sources is one of the paths. -/
theorem generatedDir_mem_all : paths.generatedDir ∈ paths.all := by simp [all]

/-- The directory of classes is one of the paths. -/
theorem classesDir_mem_all : paths.classesDir ∈ paths.all := by simp [all]

/-- The cache is one of the paths. -/
theorem cacheFile_mem_all : paths.cacheFile ∈ paths.all := by simp [all]

/-- The baseline is one of the paths. -/
theorem baselineFile_mem_all : paths.baselineFile ∈ paths.all := by simp [all]

end LanguagePaths

/-- The other language. -/
def Language.other : Language → Language
  | .java => .kotlin
  | .kotlin => .java

/-- Of two languages, each is the other's other one. -/
@[simp]
theorem Language.other_other (language : Language) : language.other.other = language := by
  cases language <;> rfl

instance (p : Language → Prop) [Decidable (p .java)] [Decidable (p .kotlin)] :
    Decidable (∀ language, p language) :=
  decidable_of_iff (p .java ∧ p .kotlin)
    ⟨fun h language => by cases language; exacts [h.1, h.2], fun h => ⟨h .java, h .kotlin⟩⟩

/-- What can be asked for. -/
inductive Operation where
  /-- To validate the snippets of a language. -/
  | validate (choice : ValidationChoice)
  /-- To remove what validations of a language have left. -/
  | clean (language : Language)

/-- The language that an operation is about. -/
def Operation.language : Operation → Language
  | .validate choice => choice.language
  | .clean language => language

/-- What comes of an operation. -/
inductive Answer where
  /-- The report of a validation, or why it failed. -/
  | validation (result : Except RunError Validation)
  /-- What was removed, or why that failed. -/
  | cleaning (result : Except FileError Cleaning)

/-- What operations are carried out with. -/
structure Site where
  /-- What runs commands. -/
  machine : Machine
  /-- The manifest. -/
  manifest : Manifest
  /-- The repository root. -/
  root : String
  /-- The variables of the environment. -/
  environment : String → Option String

namespace Site

/-! ## Carrying out operations -/

section Perform

variable (site : Site)

/-- Carry out an operation. -/
def perform : Operation → Workspace → Answer × Workspace
  | .validate choice, start =>
    let ended := (Validation.run site.machine site.manifest site.root site.environment choice).exec
      start
    (.validation ended.1, ended.2)
  | .clean language, start =>
    let ended := (Cleaning.run site.manifest site.root language).exec start
    (.cleaning ended.1, ended.2)

/-- Carry out operations one after the other, and give what comes of each. -/
def performAll : List Operation → Workspace → List (Operation × Answer) × Workspace
  | [], start => ([], start)
  | operation :: operations, start =>
    let (answer, between) := site.perform operation start
    let (answers, final) := performAll operations between
    ((operation, answer) :: answers, final)

/-- Where the files of a language go. -/
def paths (language : Language) : LanguagePaths :=
  site.manifest.paths.resolve site.root language

/-- Where the classpath comes from. -/
def classpath : Compiler.Classpath :=
  .ofSection site.manifest.classpath site.root

/-- What a validation is to do that starts from a workspace. -/
def task (workspace : Workspace) (choice : ValidationChoice) : Task :=
  site.manifest.task site.root
    (site.manifest.toolchain choice.language site.environment workspace) choice

/-- Where documents may stand. -/
def documents (cwd : Location) : Set Location :=
  (Listing.extraction site.manifest site.root .java).places cwd

/-- What the operations on a language change in a tree. They make the directories that are missing
on their ways, but no directory of documents. -/
def territory (language : Language) (cwd : Location) (scratch : Set Location) (start : Tree) :
    Territory :=
  ((site.paths language).territory language cwd scratch (site.documents cwd)).restrict
    {location | start.get? location = none ∧
      ∀ docs ∈ site.manifest.project.docs.value, location ≠ target cwd (Path.join site.root docs)}

end Perform

/-! ## Places and commands -/

/-- The places of a site lie apart: the territory of each language spares all that the other one
looks at, and what is written or scratched is no document. -/
structure Apart (site : Site) (cwd : Location) (scratch products : Set Location) (start : Tree) :
    Prop where
  present : start.get? cwd = some .directory
  paths : ∀ language, ∀ path ∈ (site.paths language).all,
    (site.territory language.other cwd scratch start).Spares cwd path
  base : ∀ language, ((site.territory language.other cwd scratch start).excluding products).Spares
    cwd (Path.join site.root (site.manifest.settings language).baseSource)
  docs : ∀ language, ∀ docs ∈ site.manifest.project.docs.value,
    (site.territory language cwd scratch start).Spares cwd (Path.join site.root docs)
  home : ∀ language home,
    (site.manifest.settings language).compiler.bind Compiler.Toolchain.ofCommand? = none →
    site.environment (Compiler.Convention.of language).homeVariable = some home →
    let program := Path.join (Path.join home "bin") (Compiler.Convention.of language).binary
    (site.territory language.other cwd scratch start).Spares cwd program ∧
      target cwd program ∉ (site.territory language.other cwd scratch start).ways
  written : ∀ language, ∀ location ∈ (site.paths language).written language cwd,
    location ∉ site.documents cwd
  inside : ∀ language location, target cwd (site.paths language).classesDir <+: location →
    location ∈ site.documents cwd → start.fileAt? location = none
  scratched : ∀ location ∈ scratch, location ∉ site.documents cwd ∧
    ∀ language, location ∉ (site.paths language).outputs language cwd

/-- The commands of a site are disciplined: its compilers are, the command that exports the
classpath is independent of both languages, and no entry of a classpath belongs to the other
language. -/
structure Disciplined (site : Site) (cwd : Location) (scratch products : Set Location)
    (start : Tree) : Prop where
  proper : site.machine.KeepsProper
  compiler : ∀ workspace choice,
    (site.task workspace choice).session.Disciplined site.machine cwd (site.documents cwd)
  exporter : ∀ language version exporter, site.classpath.exporter = some exporter →
    exporter.Independent site.machine version cwd (site.territory language cwd scratch start)
      scratch products
  known : site.classpath.exporter = none → products = ∅
  entries : ∀ language version workspace classpath final, workspace.ProperAt cwd →
    (site.classpath.resolve site.machine version).Yields workspace classpath final →
    ∀ entry ∈ Compiler.Session.classpathEntries
        (classpath.push Compiler.separator ++ (site.paths language).classesDir),
      entry = (site.paths language).classesDir ∨
        ((site.territory language.other cwd scratch start).excluding products).Clears cwd entry

/-! ## Where operations on one language leave the other one alone -/

variable {site : Site} {cwd : Location} {scratch products : Set Location} {start : Tree}

namespace Apart

variable (h : site.Apart cwd scratch products start) (language : Language)
include h

/-- What belongs to the one language is on no way that the other one takes. -/
private theorem not_mem_own_of_mem_stages {path : String}
    (hpath : path ∈ (site.paths language).all) {stage : Location}
    (hstage : stage ∈ stages cwd path) :
    stage ∉ (site.paths language.other).outputs language.other cwd :=
  fun hmem => (h.paths language path hpath).own stage hstage (.inl hmem)

/-- What one language leaves is on no way of the other one. -/
theorem not_mem_ways {location : Location}
    (hmem : location ∈ (site.paths language.other).outputs language.other cwd) :
    location ∉ (site.paths language).ways cwd := by
  simp only [LanguagePaths.ways, Set.mem_ofPred_eq, List.mem_append, not_or]
  refine ⟨⟨⟨fun hstage => ?_, fun hstage => ?_⟩, fun hstage => ?_⟩, fun hstage => ?_⟩
  · exact h.not_mem_own_of_mem_stages language (site.paths language).generatedDir_mem_all hstage
      hmem
  · exact h.not_mem_own_of_mem_stages language (site.paths language).classesDir_mem_all hstage hmem
  · exact h.not_mem_own_of_mem_stages language (site.paths language).cacheFile_mem_all
      (List.dropLast_subset _ hstage) hmem
  · exact h.not_mem_own_of_mem_stages language (site.paths language).baselineFile_mem_all
      (List.dropLast_subset _ hstage) hmem

/-- A source of one language is no class of the other one. -/
private theorem not_isPrefix_of_source {location : Location} {extension : String}
    (hdir : location.dropLast = target cwd (site.paths language).generatedDir)
    (hextension : extensionAt? location = some extension) :
    ¬ target cwd (site.paths language.other).classesDir <+: location := by
  intro hinside
  rcases List.eq_nil_or_concat location with rfl | ⟨above, name, rfl⟩
  · cases hextension
  rw [List.concat_eq_append] at hdir hextension hinside
  rw [List.dropLast_concat] at hdir
  rcases List.prefix_concat_iff.1 hinside with heq | habove
  · -- directories of classes have no extension
    rw [← heq, Site.paths, PathsSection.extensionAt?_classesDir] at hextension
    cases hextension
  · rw [hdir] at habove
    exact h.not_mem_own_of_mem_stages language (site.paths language).generatedDir_mem_all
      (target_mem_stages cwd _) (.inr habove)

/-- The cache and the baseline of one language are not left by the other one. -/
private theorem state_not_mem_outputs {location : Location}
    (hstate : location = target cwd (site.paths language).cacheFile ∨
      location = target cwd (site.paths language).baselineFile) :
    location ∉ (site.paths language.other).outputs language.other cwd := by
  rcases hstate with heq | heq <;> rw [heq]
  · exact h.not_mem_own_of_mem_stages language (site.paths language).cacheFile_mem_all
      (target_mem_stages cwd _)
  · exact h.not_mem_own_of_mem_stages language (site.paths language).baselineFile_mem_all
      (target_mem_stages cwd _)

/-- What one language leaves, the other one does not. -/
private theorem not_mem_outputs {location : Location}
    (hmem : location ∈ (site.paths language).outputs language cwd) :
    location ∉ (site.paths language.other).outputs language.other cwd := by
  intro hother
  have hback : location ∈ (site.paths language.other.other).outputs language.other.other cwd := by
    rwa [Language.other_other]
  rcases hmem with (⟨hdir, hextension⟩ | hstate) | hinside
  · rcases hother with (⟨-, hextension'⟩ | hstate') | hinside'
    · rw [hextension] at hextension'
      revert hextension'
      cases language <;> decide
    · exact h.state_not_mem_outputs language.other hstate' hback
    · exact h.not_isPrefix_of_source language hdir hextension hinside'
  · exact h.state_not_mem_outputs language hstate hother
  · rcases hother with (⟨hdir', hextension'⟩ | hstate') | hinside'
    · refine h.not_isPrefix_of_source language.other hdir' hextension' ?_
      rwa [Language.other_other]
    · exact h.state_not_mem_outputs language.other hstate' hback
    · -- of two directories on one way, one is in the other
      rcases List.prefix_or_prefix_of_prefix hinside hinside' with hfirst | hsecond
      · refine h.not_mem_own_of_mem_stages language.other
          (site.paths language.other).classesDir_mem_all (target_mem_stages cwd _) (.inr ?_)
        rwa [Language.other_other]
      · exact h.not_mem_own_of_mem_stages language (site.paths language).classesDir_mem_all
          (target_mem_stages cwd _) (.inr hsecond)

/-- What one language leaves is neither in the territory of the other one nor on its ways. -/
theorem outputs_spared {location : Location}
    (hmem : location ∈ (site.paths language).outputs language cwd) :
    location ∉ (site.territory language.other cwd scratch start).own ∧
      location ∉ (site.territory language.other cwd scratch start).ways := by
  refine ⟨fun hown => ?_, fun hways => ?_⟩
  · rcases hown with hother | hscratch
    · exact h.not_mem_outputs language hmem hother
    · exact (h.scratched location hscratch).2 language hmem
  · refine h.not_mem_ways language.other ?_ hways.1
    rwa [Language.other_other]

end Apart

/-! ## Validations -/

section Validations

variable (workspace : Workspace) (choice : ValidationChoice)

/-- A validation is about the language that was chosen. -/
theorem language_task : (site.task workspace choice).language = choice.language :=
  Manifest.language_settings _ _

/-- The paths of a validation are those of its manifest for the language that was chosen. -/
theorem paths_task : ∃ given root, (site.task workspace choice).paths =
    PathsSection.resolve given root (site.task workspace choice).language := by
  rw [language_task]
  exact ⟨site.manifest.paths, site.root, rfl⟩

/-- A validation leaves what its run leaves. -/
theorem snd_perform_validate :
    (site.perform (.validate choice) workspace).2 =
      ((({} : Pipeline).course site.machine (site.task workspace choice)).run workspace).2 := by
  show ((Validation.run _ _ _ _ choice).exec workspace).2 = _
  rw [Validation.run, exec_get_bind]
  dsimp only
  rw [exec_bind, exec_describing, Pipeline.exec_run]
  unfold Site.task
  rcases ((Pipeline.course {} site.machine _).run workspace).1.result with error | run <;> rfl

variable {workspace choice} in
/-- Workspaces that stand beside each other have the same task, if nobody has made the program of a
compiler. -/
private theorem task_eq (h : site.Apart cwd scratch products start) {other : Workspace}
    (hbeside : workspace.Beside cwd (site.territory choice.language.other cwd scratch start)
      other) :
    site.task other choice = site.task workspace choice := by
  have hfound : site.manifest.toolchain choice.language site.environment other =
      site.manifest.toolchain choice.language site.environment workspace := by
    unfold Manifest.toolchain Compiler.Toolchain.discover
    cases hgiven : (site.manifest.settings choice.language).compiler.bind
        Compiler.Toolchain.ofCommand? with
    | some toolchain => simp only [Option.orElse_some, Option.getD_some]
    | none =>
      cases hhome : site.environment (Compiler.Convention.of choice.language).homeVariable with
      | none => simp only [Option.bind_none, Option.orElse_none]
      | some home =>
        obtain ⟨hspares, htarget⟩ := h.home choice.language home hgiven hhome
        have hpresent := hspares.isPresent_eq hbeside.allows hbeside.first.proper htarget
        simp only [Option.bind_some, Compiler.Toolchain.inHome?, Workspace.isPresent,
          hbeside.first.cwd, hbeside.second.cwd, hpresent]
  rw [Site.task, Site.task, hfound]

section

variable (h : site.Apart cwd scratch products start)
  (hcommands : site.Disciplined cwd scratch products start)
include h hcommands

/-- What a validation launches is confined to the territory of its language. -/
private theorem confined_task : (site.task workspace choice).Confined site.machine cwd scratch
    (site.documents cwd) where
  paths := site.paths_task _ _
  written := by
    rw [language_task]
    exact h.written choice.language
  scratched location hmem := (h.scratched location hmem).1
  proper := hcommands.proper
  compiler := hcommands.compiler workspace choice
  exporter exporter hexporter :=
    (hcommands.exporter choice.language choice.version exporter hexporter).leaves

/-- The territory of the other language is clear of what a validation is to do. -/
private theorem clearOf_task : (site.task workspace choice).ClearOf site.machine cwd
    (site.territory choice.language.other cwd scratch start) scratch products := by
  have hclasses : (site.territory choice.language.other cwd scratch start).Clears cwd
      (site.paths choice.language).classesDir :=
    { h.paths choice.language _ (site.paths choice.language).classesDir_mem_all with
      own_below := fun location hinside =>
        (h.outputs_spared choice.language (.inr hinside)).1
      ways_below := fun location hinside =>
        (h.outputs_spared choice.language (.inr hinside)).2 }
  constructor
  case paths => exact site.paths_task _ _
  case generated => exact h.paths _ _ (site.paths choice.language).generatedDir_mem_all
  case cache => exact h.paths _ _ (site.paths choice.language).cacheFile_mem_all
  case baseline => exact h.paths _ _ (site.paths choice.language).baselineFile_mem_all
  case outputs =>
    rw [language_task]
    exact fun location hmem => h.outputs_spared choice.language hmem
  case documents =>
    refine ⟨fun docs hdocs => ⟨h.docs _ docs hdocs, fun hways => ?_⟩, fun location hmem => hmem⟩
    exact hways.2.2 docs hdocs rfl
  case session =>
    constructor
    case start =>
      -- where paths start, a directory has always been
      rintro path ⟨-, hmissing, -⟩
      unfold Files.start at hmissing
      split at hmissing
      · cases hmissing
      · rw [h.present] at hmissing
        cases hmissing
    case classes => exact hclasses
    case base => exact h.base choice.language
    case entries =>
      intro workspace classpath final hstart hyields entry hmem
      rcases hcommands.entries choice.language choice.version workspace classpath final hstart
        hyields entry hmem with rfl | hclears
      · exact { hclasses.toSpares.excluding products with
          own_below := fun location hinside hown => hclasses.own_below location hinside hown.1
          ways_below := hclasses.ways_below }
      · exact hclears
    case exporter => exact hcommands.exporter choice.language.other choice.version
    case scratched => exact fun location hmem => ⟨.inr hmem, (h.scratched location hmem).1⟩
    case known => exact hcommands.known

variable {workspace choice} in
/-- A validation goes beside the territory of the other language, if no document stands there. -/
private theorem endAlike_validation {other : Workspace}
    (hbeside : workspace.Beside cwd (site.territory choice.language.other cwd scratch start) other)
    (hfree : ∀ location ∈ (site.territory choice.language.other cwd scratch start).own,
      location ∈ site.documents cwd → workspace.files.fileAt? location = none) :
    EndAlike Eq (Beside cwd (site.territory choice.language.other cwd scratch start))
      (Beside cwd (site.territory choice.language.other cwd scratch start))
      ((Validation.run site.machine site.manifest site.root site.environment choice).exec workspace)
      ((Validation.run site.machine site.manifest site.root site.environment choice).exec other) := by
  have hrun := (clearOf_task workspace choice h hcommands).endAlike_run hcommands.proper
    (hcommands.compiler workspace choice) hbeside hfree
  rw [Validation.run, exec_get_bind, exec_get_bind]
  show EndAlike _ _ _
    (((({} : Pipeline).run site.machine (site.task workspace choice)).describing RunError.validation
      >>= _).exec workspace)
    (((({} : Pipeline).run site.machine (site.task other choice)).describing RunError.validation
      >>= _).exec other)
  rw [task_eq h hbeside]
  refine (hrun.describing RunError.validation).bind ?_
  rintro run _ final final' rfl hfinal
  exact .ok rfl hfinal

end

end Validations

/-! ## Operations within and beside territories -/

/-- Cleaning stays within a territory to which the footprint of its language belongs. -/
theorem keeps_within_cleaning {language : Language} {territory : Territory} {origin : Tree}
    (hown : (site.paths language).footprint language cwd ⊆ territory.own) :
    (Cleaning.run site.manifest site.root language).Keeps (Within cwd territory origin) := by
  refine (keeps_within_removeFilesWithExtension fun location hmem =>
    hown (.inl (.inl (Tree.mem_sites_of_mem_sources hmem)))).bind fun _ => ?_
  refine (keeps_within_removeDirectoryIfPresent fun location hinside =>
    hown (.inl (.inr hinside))).bind fun _ => ?_
  exact (keeps_within_removeFileIfPresent (hown (.inr rfl))).bind fun _ => .pure _

/-- Cleaning goes beside the territory of the other language. -/
private theorem beside_cleaning (h : site.Apart cwd scratch products start) (language : Language) :
    (Cleaning.run site.manifest site.root language).GoesBeside cwd
      (site.territory language.other cwd scratch start) := by
  refine (beside_removeFilesWithExtension
    (h.paths language _ (site.paths language).generatedDir_mem_all) fun location hmem =>
      (h.outputs_spared language (.inl (LanguagePaths.mem_written_of_mem_sources hmem))).1).bind
    fun sources => ?_
  refine Tandem.bind (beside_removeDirectoryIfPresent
    (h.paths language _ (site.paths language).classesDir_mem_all)
    (h.outputs_spared language (.inr List.prefix_rfl)).2
    (PathsSection.isSome_lastName?_classesDir _ _ _) (PathsSection.target_classesDir_ne _ _ _ _))
    fun classes => ?_
  exact (beside_removeFileIfPresent
    (h.paths language _ (site.paths language).cacheFile_mem_all)).bind fun cache => .pure _

variable {workspace : Workspace} (h : site.Apart cwd scratch products start)
  (hcommands : site.Disciplined cwd scratch products start)
include h hcommands

/-- An operation stays within the territory of its language, and makes no directory of documents. -/
theorem within_perform (operation : Operation) (hstart : workspace.ProperAt cwd)
    (hfree : ∀ location ∈ (site.paths operation.language).outputs operation.language cwd,
      location ∈ site.documents cwd → workspace.files.fileAt? location = none) :
    Within cwd
      (((site.paths operation.language).territory operation.language cwd scratch
        (site.documents cwd)).restrict {location | ∀ docs ∈ site.manifest.project.docs.value,
          location ≠ target cwd (Path.join site.root docs)})
      workspace.files (site.perform operation workspace).2 := by
  cases operation with
  | validate choice =>
    have hconfined := confined_task workspace choice h hcommands
    have hlanguage : (site.task workspace choice).language = choice.language :=
      language_task workspace choice
    have hwithin := hconfined.within_course hstart (by rw [hlanguage]; exact hfree)
    rw [hlanguage, ← snd_perform_validate] at hwithin
    exact hwithin
  | clean language =>
    refine keeps_within_cleaning (fun location hmem => ?_) workspace ⟨hstart, .refl _ _⟩
    exact .inl (LanguagePaths.mem_outputs_iff.2 (.inl hmem))

/-- From workspaces that stand beside each other an operation comes to the same, and it leaves such
workspaces, if no document stands in a place of the other language's territory. -/
theorem beside_perform (operation : Operation) {other : Workspace}
    (hbeside : workspace.Beside cwd (site.territory operation.language.other cwd scratch start)
      other)
    (hfree : ∀ location ∈ (site.territory operation.language.other cwd scratch start).own,
      location ∈ site.documents cwd → workspace.files.fileAt? location = none) :
    (site.perform operation other).1 = (site.perform operation workspace).1 ∧
      (site.perform operation workspace).2.Beside cwd
        (site.territory operation.language.other cwd scratch start)
        (site.perform operation other).2 := by
  cases operation with
  | validate choice =>
    obtain ⟨hresult, hfinal⟩ := (endAlike_validation h hcommands hbeside hfree).result_eq
    exact ⟨congrArg Answer.validation hresult, hfinal⟩
  | clean language =>
    obtain ⟨hresult, hfinal⟩ := (beside_cleaning h language workspace other hbeside).result_eq
    exact ⟨congrArg Answer.cleaning hresult, hfinal⟩

end Site

end SnippetCheck
