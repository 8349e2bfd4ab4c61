import SnippetCheck.Manifest.Check
import SnippetCheck.Proofs.Compiler.Reading
import SnippetCheck.Proofs.Run.Operation

/-!
# What Operations Leave Alone

Cleaning, and validating without capturing failures, change no file outside the footprint of their
language, whether they succeed or not (`Site.userFiles_kept`): the sources of the language directly
in the directory of generated sources, its classes and its cache. What a user has written stays if
it stands elsewhere. Nothing keeps a manifest from putting what a user has written into a footprint,
and there it is removed (`Site.userFiles_lost`).
-/

namespace SnippetCheck

open Action Files Workspace

namespace LanguagePaths

variable {given : PathsSection} {root : String} {language other : Language} {cwd : Location}

/-- Of the footprint of a language, only the directory of classes can hold a baseline. -/
theorem baselineFile_mem_footprint
    (h : target cwd (given.resolve root other).baselineFile ∈
      (given.resolve root language).footprint language cwd) :
    target cwd (given.resolve root language).classesDir <+:
      target cwd (given.resolve root other).baselineFile := by
  rcases mem_footprint_iff.1 h with ⟨-, hextension⟩ | hinside | hcache
  · -- no source has the extension of a baseline
    rw [PathsSection.extensionAt?_baselineFile] at hextension
    cases language <;> exact absurd hextension (by decide)
  · exact hinside
  · exact absurd hcache.symm (PathsSection.target_cacheFile_ne_baselineFile given root language cwd
      other)

end LanguagePaths

namespace Site

/-- The commands of a site are contained, as far as a language is concerned: its compilers change
nothing outside the directory of classes, and the command that exports the classpath changes only
what it scratches. -/
structure Contained (site : Site) (language : Language) (cwd : Location) (scratch : Set Location) :
    Prop where
  proper : site.machine.KeepsProper
  compiler : ∀ workspace choice, choice.language = language → ∀ classpath source,
    ∀ files : Tree, files.Proper →
      ∀ location, ¬ target cwd (site.paths language).classesDir <+: location →
        (site.machine.run ((site.task workspace choice).session.command classpath source) cwd
          files).2.get? location = files.get? location
  exporter : ∀ version, ∀ command ∈ site.classpath.commands version,
    ∀ files : Tree, files.Proper → ∀ location ∉ scratch,
      (site.machine.run command cwd files).2.get? location = files.get? location

/-- What a user has written is as it was, as far as it does not stand where operations on a language
leave their files, and where the command for the classpath scratches. -/
structure KeepsUserFiles (site : Site) (language : Language) (cwd : Location)
    (scratch : Set Location) (before after : Tree) : Prop where
  /-- The documents are. -/
  documents : ∀ location ∈ site.documents cwd,
    location ∉ (site.paths language).footprint language cwd → location ∉ scratch →
      after.fileAt? location = before.fileAt? location
  /-- The sources of the base types of both languages are. -/
  bases : ∀ other,
    let base := target cwd (Path.join site.root (site.manifest.settings other).baseSource)
    base ∉ (site.paths language).footprint language cwd → base ∉ scratch →
      after.fileAt? base = before.fileAt? base
  /-- The baselines of both languages are, if they are not among the classes. -/
  baselines : ∀ other,
    let baseline := target cwd (site.paths other).baselineFile
    ¬ target cwd (site.paths language).classesDir <+: baseline → baseline ∉ scratch →
      after.fileAt? baseline = before.fileAt? baseline
  /-- All other files are. -/
  others : ∀ location ∉ (site.paths language).footprint language cwd, location ∉ scratch →
    after.fileAt? location = before.fileAt? location

instance (site : Site) (cwd location : Location) : Decidable (location ∈ site.documents cwd) :=
  inferInstanceAs (Decidable (location ∈ Extraction.places _ cwd))

variable {site : Site} {language : Language} {cwd : Location} {scratch : Set Location}

/-- Commands of machines that read are contained. -/
theorem contained_reading {judge : ByteArray → Finished} (hsite : site.machine = .reading judge)
    (language : Language) (cwd : Location) (scratch : Set Location) :
    site.Contained language cwd scratch where
  proper := by
    rw [hsite]
    exact Machine.keepsProper_reading judge
  compiler workspace choice _ classpath source files _ location _ := by
    rw [hsite, Machine.run_reading]
  exporter version command _ files _ location _ := by rw [hsite, Machine.run_reading]

namespace Contained

variable (h : site.Contained language cwd scratch)
include h

/-- A validation whose commands are contained is bounded by a territory to which the footprint
belongs, and the baseline if failures are captured. -/
theorem bounded_task {choice : ValidationChoice} (hlanguage : choice.language = language)
    {territory : Territory} (hways : (site.paths language).ways cwd ⊆ territory.ways)
    (hown : (site.paths language).footprint language cwd ∪ scratch ⊆ territory.own)
    (hbaseline : choice.mode = .capture →
      target cwd (site.paths language).baselineFile ∈ territory.own)
    (hbarred : territory.barred = ∅) (workspace : Workspace) (origin : Tree) :
    (site.task workspace choice).Bounded site.machine cwd territory origin := by
  subst hlanguage
  -- nothing is barred, so that what is in the territory may be written at once
  have hfree (location : Location) : location ∉ territory.barred := by
    rw [hbarred]
    exact Set.notMem_empty location
  have hlanguage := site.language_task workspace choice
  constructor
  case paths => exact site.paths_task workspace choice
  case ways => exact hways
  case sources =>
    rw [hlanguage]
    exact fun location hmem => ⟨hown (.inl (.inl (.inl hmem))), hfree location⟩
  case classes => exact fun location hinside => hown (.inl (.inl (.inr hinside)))
  case cache => exact ⟨hown (.inl (.inr rfl)), hfree _⟩
  case baseline => exact fun hmode => ⟨hbaseline hmode, hfree _⟩
  case proper => exact h.proper
  case compiler =>
    intro classpath source files hfiles _
    refine Territory.allows_of_same (fun location hinside => ⟨hown ?_, hfree location⟩)
      (h.compiler workspace choice rfl classpath source files hfiles)
    exact .inl (.inl (.inr hinside))
  case exporter =>
    intro command hcommand files hfiles _
    exact Territory.allows_of_same (fun location hmem => ⟨hown (.inr hmem), hfree location⟩)
      (h.exporter choice.version command hcommand files hfiles)

end Contained

/-- Operations that capture no failures leave what a user has written, whether they succeed or
not, as far as it does not stand in the footprint of their language. -/
theorem userFiles_kept {operation : Operation} {start : Workspace} (hstart : start.ProperAt cwd)
    (hnormal : ∀ choice, operation = .validate choice → choice.mode = .normal)
    (h : site.Contained operation.language cwd scratch) :
    site.KeepsUserFiles operation.language cwd scratch start.files
      (site.perform operation start).2.files := by
  -- only the footprint, and what is scratched, belongs to the territory
  let territory : Territory := {
    ways := (site.paths operation.language).ways cwd
    own := (site.paths operation.language).footprint operation.language cwd ∪ scratch
    barred := ∅ }
  have hwithin : Within cwd territory start.files (site.perform operation start).2 := by
    cases operation with
    | validate choice =>
      have hbounded : (site.task start choice).Bounded site.machine cwd territory start.files := by
        refine h.bounded_task rfl subset_rfl subset_rfl (fun hcapture => ?_) rfl start start.files
        rw [hnormal choice rfl] at hcapture
        cases hcapture
      rw [snd_perform_validate]
      exact hbounded.stepsKeep_within.holds_course ⟨hstart, .refl _ _⟩
    | clean language =>
      exact keeps_within_cleaning Set.subset_union_left start ⟨hstart, .refl _ _⟩
  have hkept (location : Location)
      (hfootprint : location ∉
        (site.paths operation.language).footprint operation.language cwd)
      (hscratch : location ∉ scratch) :
      (site.perform operation start).2.files.fileAt? location = start.files.fileAt? location := by
    exact hwithin.allows.fileAt?_eq (not_or.2 ⟨hfootprint, hscratch⟩)
  constructor
  case documents => exact fun location _ => hkept location
  case bases => exact fun other => hkept _
  case baselines =>
    intro other baseline houtside hscratch
    exact hkept baseline (mt LanguagePaths.baselineFile_mem_footprint houtside) hscratch
  case others => exact hkept

/-! ## A manifest that puts what a user has written into a footprint -/

/-- The text of a manifest that has sources generated beside the base sources, classes put among the
documents, and baselines put among the classes of Java. -/
def overlappingText : String :=
  "[project]\ndocs = [\"docs\"]\n\n[sdk]\nversion = \"1.0\"\n\n[paths]\n" ++
  "generated = \"validation/base\"\nclasses = \"docs\"\n" ++
  "baselines = \"docs/snippet-java-classes\"\n\n[classpath]\nentries = [\"l\"]\n"

/-- A site with this manifest, and with commands that only read. -/
def overlapping : Site where
  machine := .reading fun _ => ⟨.code 0, [], []⟩
  manifest := {
    project := { docs := ⟨["docs"], ⟨17, 8⟩⟩ }
    sdk := { version := some ⟨"1.0", ⟨43, 5⟩⟩ }
    paths := {
      generated := "validation/base", classes := "docs"
      baselines := "docs/snippet-java-classes" }
    classpath := { entries := ["l"] } }
  root := "."
  environment _ := none

/-- A workspace with the base sources, with documents, of which one is among the classes of Java,
and with the baselines. -/
def written : Workspace where
  files := ⟨[(["docs"], .directory), (["docs", "a.md"], .file "```java\n1\n```\n".toUTF8),
    (["docs", "snippet-java-classes"], .directory),
    (["docs", "snippet-java-classes", "b.md"], .file "b\n".toUTF8),
    (["docs", "snippet-java-classes", "baseline-java.json"], .file "[]".toUTF8),
    (["docs", "snippet-java-classes", "baseline-kotlin.json"], .file "[]".toUTF8),
    (["validation"], .directory), (["validation", "base"], .directory),
    (["validation", "base", "ValidationBaseJava.java"], .file "j".toUTF8),
    (["validation", "base", "ValidationBase.kt"], .file "k".toUTF8)]⟩

/-- What a user has written in a tree: the documents, and the base sources and baselines of both
languages. -/
def userFiles (site : Site) (cwd : Location) : Set Location :=
  site.documents cwd ∪ {location | ∃ language, location ∈
    [target cwd (Path.join site.root (site.manifest.settings language).baseSource),
      target cwd (site.paths language).baselineFile]}

/-- A normal validation of the Java snippets. -/
def normalJava : ValidationChoice :=
  { language := .java, version := ⟨"1.0", by decide, by decide⟩ }

set_option maxRecDepth 100000 in
/-- A validation of the Java snippets keeps the document that is not among the classes, and the base
source of Kotlin. -/
theorem userFiles_kept_overlapping :
    overlapping.KeepsUserFiles .java [] ∅ written.files
        (overlapping.perform (.validate normalJava) written).2.files ∧
      (overlapping.perform (.validate normalJava) written).2.files.fileAt? ["docs", "a.md"] =
        some "```java\n1\n```\n".toUTF8 ∧
      (overlapping.perform (.validate normalJava) written).2.files.fileAt?
        ["validation", "base", "ValidationBase.kt"] = some "k".toUTF8 := by
  have hproper : written.files.Proper := by decide +kernel
  have hnormal : ∀ choice, Operation.validate normalJava = .validate choice →
      choice.mode = .normal := by
    rintro choice ⟨⟩
    rfl
  have hcontained : overlapping.Contained .java [] ∅ := contained_reading rfl .java [] ∅
  have hkept := userFiles_kept ⟨rfl, hproper⟩ hnormal hcontained
  refine ⟨hkept, ?_, ?_⟩
  · refine (hkept.documents ["docs", "a.md"] ?_ ?_ (Set.notMem_empty _)).trans ?_
    · decide +kernel
    · decide +kernel
    · decide +kernel
  · refine (hkept.bases .kotlin ?_ (Set.notMem_empty _)).trans ?_
    · decide +kernel
    · decide +kernel

set_option maxRecDepth 100000 in
/-- The manifest is accepted, and yet a document, a base source and both baselines are gone when
Java is cleaned. -/
theorem userFiles_lost :
    (Manifest.ofText overlappingText).toOption = some overlapping.manifest ∧
      overlapping.Contained .java [] ∅ ∧ written.ProperAt [] ∧
      ∀ location ∈ [["docs", "snippet-java-classes", "b.md"],
          ["validation", "base", "ValidationBaseJava.java"],
          ["docs", "snippet-java-classes", "baseline-java.json"],
          ["docs", "snippet-java-classes", "baseline-kotlin.json"]],
        location ∈ overlapping.userFiles [] ∧
          (written.files.fileAt? location).isSome = true ∧
          (overlapping.perform (.clean .java) written).2.files.fileAt? location = none := by
  have hproper : written.files.Proper := by decide +kernel
  refine ⟨by decide +kernel, contained_reading rfl .java [] ∅, ⟨rfl, hproper⟩, ?_⟩
  simp only [List.forall_mem_cons, List.not_mem_nil, false_implies, implies_true, and_true]
  refine ⟨⟨.inl ?_, ?_⟩, ⟨.inr ⟨.java, ?_⟩, ?_⟩, ⟨.inr ⟨.java, ?_⟩, ?_⟩, ⟨.inr ⟨.kotlin, ?_⟩, ?_⟩⟩
  · decide +kernel
  · decide +kernel
  · decide +kernel
  · decide +kernel
  · decide +kernel
  · decide +kernel
  · decide +kernel
  · decide +kernel

end Site

end SnippetCheck
