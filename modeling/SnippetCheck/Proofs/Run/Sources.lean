import SnippetCheck.Proofs.Files.Proper
import SnippetCheck.Proofs.Files.Reached
import SnippetCheck.Proofs.Manifest.Paths
import SnippetCheck.Proofs.Run.Generate

/-!
# The Sources Of One Run

A generate phase that succeeds leaves the units of its own run and nothing of earlier ones, if the
paths of the manifest reach what earlier runs have left (`Phase.generated_of_yields`): in the
directory of generated sources there is one file with the extension of the language for each
snippet, the directory of classes is gone, and all other files are as they were.
-/

namespace SnippetCheck

open Action Files Workspace SourceUnit

/-- What a generate phase has left when it has succeeded. -/
structure Phase.Generated (run next : Run) (start final : Workspace) : Prop where
  /-- There is one unit for each snippet, in their order. -/
  snippets : next.units.map snippet = run.snippets
  /-- The units have the names that were allocated. -/
  names : next.units.map className = ClassName.allocate run.task.language.tag run.snippets
  /-- Each file is called by the name of its class. -/
  named : ∀ sourceUnit ∈ next.units,
    sourceUnit.fileName = sourceUnit.className ++ "." ++ run.task.language.extension
  /-- No two files have the same name. -/
  distinct : (next.units.map fileName).Nodup
  /-- Each unit stands directly in the directory of generated sources. -/
  direct : ∀ sourceUnit ∈ next.units,
    target start.cwd (sourceUnit.pathIn run.task.paths.generatedDir) =
      target start.cwd run.task.paths.generatedDir ++ [sourceUnit.fileName]
  /-- It holds the wrapped source of its snippet. -/
  written : ∀ sourceUnit ∈ next.units,
    final.files.fileAt? (target start.cwd run.task.paths.generatedDir ++ [sourceUnit.fileName]) =
      some (SourceUnit.wrap run.task.settings sourceUnit.className sourceUnit.snippet).toUTF8
  /-- No other source is there. -/
  only : ∀ location ∈
      sites (target start.cwd run.task.paths.generatedDir) run.task.language.extension,
    (final.files.fileAt? location).isSome = true →
      ∃ sourceUnit ∈ next.units,
        location = target start.cwd run.task.paths.generatedDir ++ [sourceUnit.fileName]
  /-- The directory of classes is gone. -/
  classes : ∀ location, target start.cwd run.task.paths.classesDir <+: location →
    final.files.get? location = none
  /-- All other files are as they were. -/
  others : ∀ location ∉
      sites (target start.cwd run.task.paths.generatedDir) run.task.language.extension,
    ¬ target start.cwd run.task.paths.classesDir <+: location →
      final.files.fileAt? location = start.files.fileAt? location

/-- A path that starts with a text is not empty. -/
theorem Path.join_ne_empty {base : String} (h : base ≠ "") (path : String) :
    Path.join base path ≠ "" := by
  have hbase : base.toList ≠ [] := by simpa using h
  intro heq
  have hchars : Path.joinChars base.toList path.toList = [] := by
    simpa [Path.join] using congrArg String.toList heq
  unfold Path.joinChars at hchars
  split at hchars
  next habsolute =>
    rw [hchars] at habsolute
    cases habsolute
  · split at hchars
    · exact hbase (List.append_eq_nil_iff.1 hchars).1
    · exact hbase (List.append_eq_nil_iff.1 hchars).1

/-- The units of snippets have the names that were allocated to them. -/
theorem SourceUnit.map_className_ofSnippets (settings : Settings) (snippets : List Snippet) :
    (ofSnippets settings snippets).map className =
      ClassName.allocate settings.language.tag snippets :=
  List.ext_getElem (by simp [ofSnippets]) (by simp [ofSnippets, new])

/-- The source of a unit is that of its snippet, wrapped. -/
private theorem source_of_mem_ofSnippets {settings : Settings} {snippets : List Snippet}
    {sourceUnit : SourceUnit} (h : sourceUnit ∈ ofSnippets settings snippets) :
    sourceUnit.source = SourceUnit.wrap settings sourceUnit.className sourceUnit.snippet := by
  obtain ⟨i, hi, rfl⟩ := List.mem_iff_getElem.1 h
  simp [ofSnippets, new]

namespace Phase

variable {language : Language} {dir : String} {units : List SourceUnit}

/-- Writing units changes nothing that is not on the way to them and has no extension of theirs. -/
private theorem keeps_writeUnits_get? {cwd place : Location} {found : Option Node}
    (hnamed : ∀ sourceUnit ∈ units, WellNamed language sourceUnit) (hway : place ∉ stages cwd dir)
    (hextension : extensionAt? place ≠ some language.extension) :
    (writeUnits dir units).Keeps fun workspace =>
      workspace.cwd = cwd ∧ workspace.files.get? place = found :=
  .writeUnits fun sourceUnit hmem => keeps_writeText_get? (hnamed sourceUnit hmem).isName _
    fun hstage => hway ((hnamed sourceUnit hmem).mem_stages_of_pathIn hstage hextension)

/-- Writing units keeps trees proper. -/
private theorem keeps_properAt_writeUnits (cwd : Location) :
    (writeUnits dir units).Keeps (ProperAt cwd) :=
  .writeUnits fun _ _ => keeps_properAt_writeText _ _

section

variable {start final : Workspace} {value : Unit} {location place : Location}
  (hnamed : ∀ sourceUnit ∈ units, WellNamed language sourceUnit)
  (hwrite : (writeUnits dir units).Yields start value final)
include hnamed hwrite

/-- When units are written, a file stays that is none of theirs. -/
private theorem fileAt?_of_writeUnits_yields
    (h : ∀ sourceUnit ∈ units, location ≠ target start.cwd dir ++ [sourceUnit.fileName]) :
    final.files.fileAt? location = start.files.fileAt? location := by
  refine ((keeps_writeUnits fun sourceUnit hunit => ?_).of_yields hwrite
    (.refl start location)).file
  rw [(hnamed sourceUnit hunit).target_pathIn]
  exact h sourceUnit hunit

/-- When units are written, nothing comes to be at a place that is empty before and neither on the
way to them nor named as they are, nor below such a place. -/
private theorem get?_eq_none_of_writeUnits_yields (hproper : start.files.Proper)
    (hnone : start.files.get? place = none) (hway : place ∉ stages start.cwd dir)
    (hextension : extensionAt? place ≠ some language.extension) (hinside : place <+: location) :
    final.files.get? location = none := by
  have hplace := ((keeps_writeUnits_get? hnamed hway hextension).of_yields hwrite ⟨rfl, hnone⟩).2
  have hfinal := (keeps_properAt_writeUnits start.cwd).of_yields hwrite ⟨rfl, hproper⟩
  exact hfinal.proper.get?_eq_none_below hplace hinside

end

/-- Units with different class names have different file names. -/
private theorem nodup_map_fileName (hnamed : ∀ sourceUnit ∈ units, WellNamed language sourceUnit)
    (hnames : (units.map className).Nodup) : (units.map fileName).Nodup := by
  refine List.Nodup.map_on (fun first hfirst second hsecond heq => ?_) hnames.of_map
  by_contra hne
  refine (hnamed first hfirst).target_pathIn_ne (hnamed second hsecond) (fun hclass => hne ?_) [] ""
    (by rw [(hnamed first hfirst).target_pathIn, (hnamed second hsecond).target_pathIn, heq])
  exact List.inj_on_of_nodup_map hnames hfirst hsecond hclass

/-- Before units replace those of earlier runs, all sources are removed that stand where theirs may,
and the directory of classes. -/
private theorem without_of_replaceUnits_yields {start final : Workspace} {paths : LanguagePaths}
    {given : PathsSection} {root : String} (hproper : start.files.Proper)
    (hpaths : paths = PathsSection.resolve given root language) (hroot : root ≠ "")
    (hsources : start.files.ReachesFilesIn start.cwd paths.generatedDir language.extension)
    (hclasses : start.files.Reaches start.cwd paths.classesDir)
    (h : (replaceUnits paths language units).Yields start () final) :
    ∃ (lost : Set Location) (emptied : Workspace),
      (∀ location, location ∈ lost ↔
        (location ∈ sites (target start.cwd paths.generatedDir) language.extension ∧
          (start.files.fileAt? location).isSome = true) ∨
        target start.cwd paths.classesDir <+: location) ∧
      start.Without lost emptied ∧ emptied.files.Proper ∧
      (writeUnits paths.generatedDir units).Yields emptied () final := by
  subst hpaths
  obtain ⟨count, between, hremove, hrest⟩ := yields_bind.1 h
  obtain ⟨present, emptied, hremove', hwrite⟩ := yields_bind.1 hrest
  obtain ⟨locations, -, -, hmem, -, hwithout⟩ := without_of_removes_yield hproper
    (Path.join_ne_empty hroot _) hsources hclasses
    (PathsSection.isSome_lastName?_classesDir given root language)
    (PathsSection.target_classesDir_ne given root language _)
    (PathsSection.extensionAt?_classesDir given root language start.cwd) hremove hremove'
  have hemptied : emptied.ProperAt start.cwd :=
    (keeps_properAt_removeDirectoryIfPresent _).of_yields hremove'
      ((keeps_properAt_removeFilesWithExtension _ _).of_yields hremove ⟨rfl, hproper⟩)
  exact ⟨_, emptied, fun location => or_congr_left (hmem location), hwithout, hemptied.proper,
    hwrite⟩

/-- A run on one snippet that generates sources in a given directory. -/
def regenerating (generated : String) : Run where
  task := {
    settings := Settings.default .java
    classpath := ⟨none, []⟩
    toolchain := ⟨"javac", []⟩
    root := "r"
    docs := ["d"]
    extensions := ["md"]
    paths := PathsSection.resolve { generated, classes := "c" } "r" .java
    version := ⟨"2", by decide, by decide⟩ }
  snippets := [⟨⟨"d/a.md", 0⟩, "1"⟩]

/-- A workspace with a source and a class of an earlier run, and with another file beside them. -/
def outdatedSources : Workspace where
  files := ⟨[(["r"], .directory), (["r", "g"], .directory),
    (["r", "g", "Old.java"], .file "o".toUTF8), (["r", "g", "Old.txt"], .file "o".toUTF8),
    (["r", "c"], .directory), (["r", "c", "snippet-java-classes"], .directory),
    (["r", "c", "snippet-java-classes", "Old.class"], .file "o".toUTF8)]⟩

end Phase

end SnippetCheck
