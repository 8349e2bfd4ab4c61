import SnippetCheck.Manifest.Opened
import SnippetCheck.Proofs.Action
import SnippetCheck.Validation

/-!
# Manifests Without Faults

The check of a manifest looks for the first fault. `Checked` says of each section what has to hold
of it, without the order of the checks, and `check_eq_ok_iff` says that these are the manifests
that pass. What is checked is what later steps rely on (`Dependable`): whichever section they read,
the branch for a fault that the check looks for is not taken any more
(`dependable_of_check`).
-/

namespace SnippetCheck

open SnippetCheck.Text

/-! ## Names and versions -/

/-- A sequence of identifiers with dots between them. -/
def IsQualifiedName (name : List Char) : Prop :=
  ∀ segment ∈ splitAt '.' name, IsIdentifier segment

/-- The empty name is no identifier. -/
theorem not_isIdentifier_nil : ¬ IsIdentifier [] := by
  rintro ⟨⟨c, rest, h, -⟩, -⟩
  cases h

/-- A part of a qualified name has no fault exactly when it is an identifier. -/
theorem segmentFault?_eq_none_iff (segment : List Char) :
    segmentFault? segment = none ↔ IsIdentifier segment := by
  cases segment with
  | nil => simp [segmentFault?, not_isIdentifier_nil]
  | cons c rest => exact identifierFault?_eq_none_iff (c :: rest)

/-- A name has no fault as a qualified name exactly when it is one. -/
theorem qualifiedFault?_eq_none_iff (name : List Char) :
    qualifiedFault? name = none ↔ IsQualifiedName name := by
  cases name with
  | nil => simp [qualifiedFault?, IsQualifiedName, splitAt, not_isIdentifier_nil]
  | cons c name =>
    simp only [qualifiedFault?, List.isEmpty_cons, Bool.false_eq_true, if_false,
      List.findSome?_eq_none_iff, segmentFault?_eq_none_iff, IsQualifiedName]

/-- A text gives the version that it is after trimming, unless nothing is left of it or a blank is
left in it. -/
theorem SdkVersion.ofText_cases (raw : String) :
    (∃ version, ofText raw = .ok version ∧ version.text = trimmed raw) ∨
      (ofText raw = .error .empty ∧ trimmed raw = "") ∨
      (ofText raw = .error (.innerBlank (trimmed raw)) ∧
        (trimmed raw).toList.any isBlank = true) := by
  rw [ofText]
  split
  case isTrue hempty => exact .inr (.inl ⟨rfl, hempty⟩)
  case isFalse =>
    split
    case isTrue hblank => exact .inr (.inr ⟨rfl, hblank⟩)
    case isFalse => exact .inl ⟨_, rfl, rfl⟩

/-! ## Sections without faults -/

/-- A section on the SDK version that gives one in exactly one way. -/
inductive SdkSection.Checked : SdkSection → Prop where
  /-- The version itself is given. -/
  | version {given : Marked String} (h : ∃ version, SdkVersion.ofText given.value = .ok version) :
      SdkSection.Checked ⟨some given, none⟩
  /-- A file is given, and what it is searched with is a pattern with a group. -/
  | source {source : VersionSource}
      (h : ∃ node, Pattern.ofText? source.searchPattern = some node ∧ node.hasGroup = true) :
      SdkSection.Checked ⟨none, some source⟩

/-- A section on a language in which every name is one. -/
structure LanguageSection.Checked (given : LanguageSection) : Prop where
  /-- The package is a qualified name. -/
  package : ∀ package, given.package = some package → IsQualifiedName package.value.toList
  /-- The base type is an identifier. -/
  baseClass : ∀ baseClass, given.baseClass = some baseClass → IsIdentifier baseClass.value.toList
  /-- Every import is a qualified name, but for the mark of an import of all names. -/
  imports : ∀ names, given.imports = some names →
    ∀ name ∈ names, IsQualifiedName (withoutWildcard name.value.toList)
  /-- The compiler's command names a program. -/
  compiler : ∀ compiler, given.compiler = some compiler → compiler.value ≠ []

namespace Manifest

/-- A manifest whose sections have no fault. -/
structure Checked (manifest : Manifest) : Prop where
  /-- A directory of documents is listed. -/
  docs : manifest.project.docs.value ≠ []
  /-- The SDK version is given in exactly one way. -/
  sdk : manifest.sdk.Checked
  /-- The command for the classpath names a program. -/
  command : ∀ command, manifest.classpath.command = some command → command.value ≠ []
  /-- The section on a language has no fault. -/
  sections : ∀ language given, manifest.section? language = some given → given.Checked

/-- Two checks in a row pass when both do. -/
private theorem seq_eq_ok_iff {first second : Except ManifestError Unit} :
    (do first; second) = .ok () ↔ first = .ok () ∧ second = .ok () := by
  cases first with
  | error fault => exact ⟨fun h => (nomatch h), fun h => (nomatch h.1)⟩
  | ok => exact ⟨fun h => ⟨rfl, h⟩, fun h => h.2⟩

/-- A condition passes its check when it holds. -/
private theorem ensure_eq_ok_iff {condition : Bool} {error : ManifestError} :
    ensure condition error = .ok () ↔ condition = true := by
  cases condition <;> simp [ensure]

/-- A value that may be missing passes its check when it is missing or passes. -/
private theorem checkIfSome_eq_ok_iff {α : Type} {check : α → Except ManifestError Unit}
    {given : Option α} :
    checkIfSome check given = .ok () ↔ ∀ value, given = some value → check value = .ok () := by
  cases given <;> simp [checkIfSome]

/-- Several values pass their check when each of them does. -/
private theorem checkEach_eq_ok_iff {α : Type} {check : α → Except ManifestError Unit}
    {values : List α} :
    checkEach check values = .ok () ↔ ∀ value ∈ values, check value = .ok () := by
  induction values with
  | nil => simp [checkEach]
  | cons value values ih => rw [checkEach, seq_eq_ok_iff, ih, List.forall_mem_cons]

/-- A name passes its check when it has no fault. -/
private theorem checkName_eq_ok_iff {language : Language} {key : NameKey} {name : Marked String}
    {fault : Option NameFault} : checkName language key name fault = .ok () ↔ fault = none := by
  cases fault <;> simp [checkName]

/-- A pattern passes its check when it is one and has a group. -/
private theorem checkPattern_eq_ok_iff {pattern : Marked String} :
    checkPattern pattern = .ok () ↔
      ∃ node, Pattern.ofText? pattern.value = some node ∧ node.hasGroup = true := by
  rw [checkPattern]
  cases Pattern.ofText? pattern.value <;> simp [ensure_eq_ok_iff]

/-- The pattern that is used when none is given is a pattern with a group. -/
private theorem hasGroup_defaultPattern :
    ∃ node, Pattern.ofText? SdkSection.defaultPattern = some node ∧ node.hasGroup = true := by
  have h : ((Pattern.ofText? SdkSection.defaultPattern).map Pattern.Node.hasGroup) = some true := by
    decide +kernel
  obtain ⟨node, hnode, hgroup⟩ := Option.map_eq_some_iff.1 h
  exact ⟨node, hnode, hgroup⟩

/-- A section on the SDK version passes when it gives one in exactly one way. -/
theorem checkSdk_eq_ok_iff {sdk : SdkSection} : checkSdk sdk = .ok () ↔ sdk.Checked := by
  constructor
  · obtain ⟨_ | given, _ | ⟨file, pattern⟩⟩ := sdk
    · intro h
      cases h
    · intro h
      refine .source ?_
      cases pattern with
      | none => exact hasGroup_defaultPattern
      | some pattern => exact checkPattern_eq_ok_iff.1 h
    · intro h
      refine .version ?_
      simp only [checkSdk] at h
      split at h
      next version hversion => exact ⟨version, hversion⟩
      next => cases h
    · intro h
      cases h
  · rintro (@⟨given, version, hversion⟩ | @⟨⟨file, pattern⟩, hpattern⟩)
    · simp [checkSdk, hversion]
    · cases pattern with
      | none => rfl
      | some pattern => exact checkPattern_eq_ok_iff.2 hpattern

/-- A section on a language passes when its names are names and its compiler is a program. -/
theorem checkLanguage_eq_ok_iff {language : Language} {given : LanguageSection} :
    checkLanguage language given = .ok () ↔ given.Checked := by
  have himports : (∀ name ∈ given.imports.getD [],
        IsQualifiedName (withoutWildcard name.value.toList)) ↔
      ∀ names, given.imports = some names →
        ∀ name ∈ names, IsQualifiedName (withoutWildcard name.value.toList) := by
    cases given.imports <;> simp
  simp only [checkLanguage, seq_eq_ok_iff, checkIfSome_eq_ok_iff, checkEach_eq_ok_iff, checkPackage,
    checkBaseClass, checkImport, checkCompiler, checkName_eq_ok_iff, ensure_eq_ok_iff,
    qualifiedFault?_eq_none_iff, identifierFault?_eq_none_iff, himports, Bool.not_eq_true',
    List.isEmpty_eq_false_iff]
  exact ⟨fun ⟨hpackage, hbase, himports, hcompiler⟩ => ⟨hpackage, hbase, himports, hcompiler⟩,
    fun ⟨hpackage, hbase, himports, hcompiler⟩ => ⟨hpackage, hbase, himports, hcompiler⟩⟩

/-- A section on the classpath passes when its command, if it has one, names a program. -/
private theorem checkClasspath_eq_ok_iff {classpath : ClasspathSection} :
    checkClasspath classpath = .ok () ↔
      ∀ command, classpath.command = some command → command.value ≠ [] := by
  rw [checkClasspath]
  cases classpath.command <;> simp [ensure_eq_ok_iff]

/-- The manifests that pass the check are those whose sections have no fault. -/
theorem check_eq_ok_iff {manifest : Manifest} : manifest.check = .ok () ↔ manifest.Checked := by
  have hsections : ((∀ given, manifest.java = some given → given.Checked) ∧
        ∀ given, manifest.kotlin = some given → given.Checked) ↔
      ∀ language given, manifest.section? language = some given → given.Checked := by
    constructor
    · rintro ⟨hjava, hkotlin⟩ (_ | _) given hgiven
      · exact hjava given hgiven
      · exact hkotlin given hgiven
    · exact fun h => ⟨h .java, h .kotlin⟩
  simp only [check, seq_eq_ok_iff, checkDocs, ensure_eq_ok_iff, checkSdk_eq_ok_iff,
    checkClasspath_eq_ok_iff, checkIfSome_eq_ok_iff, checkLanguage_eq_ok_iff, hsections,
    Bool.not_eq_true', List.isEmpty_eq_false_iff]
  exact ⟨fun ⟨hdocs, hsdk, hcommand, hsections⟩ => ⟨hdocs, hsdk, hcommand, hsections⟩,
    fun ⟨hdocs, hsdk, hcommand, hsections⟩ => ⟨hdocs, hsdk, hcommand, hsections⟩⟩

end Manifest

/-! ## What later steps rely on -/

namespace VersionSource

/-- A file that holds the SDK version is read, and this is what is found in it: the groups of the
first match, if there is one. -/
def Searched (source : VersionSource) (workspace : Workspace) (root : String)
    (found : Option (List (Option (List Char)))) : Prop :=
  ∃ text node, workspace.readText (Path.join root source.file) = .ok text ∧
    Pattern.ofText? source.searchPattern = some node ∧ node.firstGroups? text.toList = found

/-- What looking the SDK version up in a file can come to. -/
inductive Gives (source : VersionSource) (workspace : Workspace) (root : String) :
    Except ManifestError SdkVersion → Prop where
  /-- The file cannot be read. -/
  | unreadable {refusal}
      (h : workspace.readText (Path.join root source.file) = .error refusal) :
      Gives source workspace root (.error (.unreadable (Path.join root source.file)))
  /-- The pattern does not match. -/
  | unmatched (h : source.Searched workspace root none) :
      Gives source workspace root
        (.error (.versionNotFound (Path.join root source.file) source.searchPattern))
  /-- The pattern matches, and its first group takes no part in the match. -/
  | ungrouped {groups} (h : source.Searched workspace root (some groups))
      (hgroup : groups[1]? = some none) :
      Gives source workspace root
        (.error (.versionNotFound (Path.join root source.file) source.searchPattern))
  /-- Nothing is left of what the group matched after trimming. -/
  | blank {groups found} (h : source.Searched workspace root (some groups))
      (hgroup : groups[1]? = some (some found)) (hblank : trimmed (String.ofList found) = "") :
      Gives source workspace root (.error (.invalidVersion (.label .empty)))
  /-- A blank is left in what the group matched after trimming. -/
  | innerBlank {groups found} (h : source.Searched workspace root (some groups))
      (hgroup : groups[1]? = some (some found))
      (hblank : (trimmed (String.ofList found)).toList.any isBlank = true) :
      Gives source workspace root
        (.error (.invalidVersion (.label (.innerBlank (trimmed (String.ofList found))))))
  /-- What the group matched is the version, after trimming. -/
  | version {groups found version} (h : source.Searched workspace root (some groups))
      (hgroup : groups[1]? = some (some found))
      (hversion : SdkVersion.text version = trimmed (String.ofList found)) :
      Gives source workspace root (.ok version)

end VersionSource

open Compiler in
/-- A manifest on which later steps rely without looking at it again. -/
structure Manifest.Dependable (manifest : Manifest) : Prop where
  /-- The SDK version is given, and what it is searched with is a pattern. -/
  given : ∀ workspace root,
    manifest.sdk.resolveIn workspace root ≠ .error (.invalidVersion .unset) ∧
      manifest.sdk.resolveIn workspace root ≠ .error (.invalidVersion .pattern)
  /-- A version that is given is taken, after trimming. -/
  version : ∀ version, manifest.sdk.version = some version → ∀ workspace root, ∃ found,
    manifest.sdk.resolveIn workspace root = .ok found ∧ found.text = trimmed version.value
  /-- A version is looked up in a file that is given. -/
  source : ∀ source, manifest.sdk.source = some source → ∀ workspace root,
    source.Gives workspace root (manifest.sdk.resolveIn workspace root)
  /-- A command for the classpath that is given is launched. -/
  command : ∀ command, manifest.classpath.command = some command → ∀ root, ∃ exporter,
    (Classpath.ofSection manifest.classpath root).exporter = some exporter ∧
      ∀ version, ∃ program args, exporter.commandLine version = program :: args ∧
        ∀ machine start, ((exporter.run machine version).exec start).2.launches =
          start.launches ++ [{ program, args, dir := some exporter.dir }]
  /-- A compiler that is given is the one that is used. -/
  compiler : ∀ language command, (manifest.settings language).compiler = some command →
    ∃ program args, command = program :: args ∧ ∀ environment workspace,
      manifest.toolchain language environment workspace = ⟨program, args⟩
  /-- The package of a language is a qualified name. -/
  package : ∀ language, IsQualifiedName (manifest.settings language).package.toList
  /-- The base type of a language is an identifier. -/
  baseClass : ∀ language, IsIdentifier (manifest.settings language).baseClass.toList
  /-- The imports of a language are qualified names, but for the mark of an import of all names. -/
  imports : ∀ language, ∀ name ∈ (manifest.settings language).imports,
    IsQualifiedName (withoutWildcard name.toList)

/-- The groups of a match of a pattern with a group include the first one. -/
private theorem exists_firstGroup {node : Pattern.Node} {text : List Char}
    {groups : List (Option (List Char))} (hgroup : node.hasGroup = true)
    (h : node.firstGroups? text = some groups) : ∃ group, groups[1]? = some group := by
  have hcount : 1 < node.program.groups := by
    have hlast : 0 < node.lastGroup := of_decide_eq_true hgroup
    change 1 < node.lastGroup + 1
    omega
  obtain ⟨found, -, rfl⟩ := Option.map_eq_some_iff.1 h
  exact ⟨_, List.getElem?_eq_getElem (by simpa using hcount)⟩

/-- A version that is given and passes the check is taken. -/
private theorem exists_resolveIn_version {sdk : SdkSection} {given : Marked String}
    (h : sdk.Checked) (hgiven : sdk.version = some given) (workspace : Workspace) (root : String) :
    ∃ found, sdk.resolveIn workspace root = .ok found ∧ found.text = trimmed given.value := by
  obtain ⟨version, hversion⟩ | _ := h
  · obtain rfl := Option.some.inj hgiven
    refine ⟨version, ?_, SdkVersion.text_eq_of_ofText hversion⟩
    simp only [SdkSection.resolveIn, SdkSection.resolve, SdkSection.readVersion, hversion]
  · cases hgiven

/-- A file that is given with a pattern that passes the check is looked up. -/
private theorem gives_resolveIn {sdk : SdkSection} {source : VersionSource} (h : sdk.Checked)
    (hsource : sdk.source = some source) (workspace : Workspace) (root : String) :
    source.Gives workspace root (sdk.resolveIn workspace root) := by
  obtain _ | ⟨node, hnode, hgroup⟩ := h
  · cases hsource
  cases hsource
  simp only [SdkSection.resolveIn, SdkSection.resolve]
  cases hread : workspace.readText (Path.join root source.file) with
  | error refusal => exact .unreadable hread
  | ok text =>
    simp only [Except.toOption, hnode]
    cases hsearch : node.firstGroups? text.toList with
    | none => exact .unmatched ⟨text, node, hread, hnode, hsearch⟩
    | some groups =>
      have hsearched : source.Searched workspace root (some groups) :=
        ⟨text, node, hread, hnode, hsearch⟩
      obtain ⟨group, hfirst⟩ := exists_firstGroup hgroup hsearch
      simp only [Option.bind_some, hfirst, Option.join_some]
      cases group with
      | none => exact .ungrouped hsearched hfirst
      | some found =>
        simp only [SdkSection.readVersion]
        -- what is found is read like a version that is given
        obtain ⟨version, hversion, htext⟩ | ⟨hversion, hempty⟩ | ⟨hversion, hblank⟩ :=
          SdkVersion.ofText_cases (String.ofList found)
        · simpa only [hversion] using .version hsearched hfirst htext
        · simpa only [hversion] using .blank hsearched hfirst hempty
        · simpa only [hversion] using .innerBlank hsearched hfirst hblank

/-- Reading what a command exports leaves everything as it is. -/
private theorem keeps_exported (exporter : Compiler.Exporter) (finished : Finished)
    (holds : Workspace → Prop) : (exporter.exported finished).Keeps holds := by
  unfold Compiler.Exporter.exported
  split
  next => exact .pure _
  next =>
    refine Action.Keeps.get_bind fun start hstart => ?_
    split <;> exact hstart

/-- A command line that names a program is launched, and nothing else is. -/
private theorem launches_run {exporter : Compiler.Exporter} {version : SdkVersion}
    {program : String} {args : List String}
    (h : exporter.commandLine version = program :: args) (machine : Machine) (start : Workspace) :
    ((exporter.run machine version).exec start).2.launches =
      start.launches ++ [{ program, args, dir := some exporter.dir }] := by
  have hlaunched := start.launches_launch machine ⟨program, args, some exporter.dir⟩
  simp only [Compiler.Exporter.run, h, Action.exec_bind, Action.exec_launch]
  cases (start.launch machine ⟨program, args, some exporter.dir⟩).1 with
  | none => exact hlaunched
  | some finished =>
    dsimp only
    split
    next => exact keeps_exported exporter finished (·.launches = _) _ hlaunched
    next => exact hlaunched

open Compiler in
/-- A command that is not empty is launched for the classpath. -/
private theorem exists_exporter {classpath : ClasspathSection} {command : Marked (List String)}
    (hcommand : classpath.command = some command) (hne : command.value ≠ []) (root : String) :
    ∃ exporter, (Classpath.ofSection classpath root).exporter = some exporter ∧
      ∀ version, ∃ program args, exporter.commandLine version = program :: args ∧
        ∀ machine start, ((exporter.run machine version).exec start).2.launches =
          start.launches ++ [{ program, args, dir := some exporter.dir }] := by
  rw [Classpath.ofSection, hcommand]
  refine ⟨_, rfl, fun version => ?_⟩
  obtain ⟨program, args, hargs⟩ := List.exists_cons_of_ne_nil hne
  -- the version is filled into each word, so there are as many as before
  simp only [Exporter.commandLine, hargs, List.map_cons]
  refine ⟨_, _, rfl, launches_run ?_⟩
  simp only [Exporter.commandLine, List.map_cons]

/-- The names that are used when none are given are names. -/
private theorem names_default (language : Language) :
    IsQualifiedName (Settings.default language).package.toList ∧
      IsIdentifier (Settings.default language).baseClass.toList ∧
      ∀ name ∈ (Settings.default language).imports,
        IsQualifiedName (withoutWildcard name.toList) := by
  simp only [← qualifiedFault?_eq_none_iff, ← identifierFault?_eq_none_iff]
  cases language <;> decide

/-- The names in the settings of a language are names, whether they are given or not. -/
private theorem names_settings {manifest : Manifest} (h : manifest.Checked) (language : Language) :
    IsQualifiedName (manifest.settings language).package.toList ∧
      IsIdentifier (manifest.settings language).baseClass.toList ∧
      ∀ name ∈ (manifest.settings language).imports,
        IsQualifiedName (withoutWildcard name.toList) := by
  obtain ⟨hpackage, hbase, himports⟩ := names_default language
  rw [Manifest.settings]
  cases hgiven : manifest.section? language with
  | none => exact ⟨hpackage, hbase, himports⟩
  | some given =>
    have hchecked := h.sections language given hgiven
    dsimp only
    refine ⟨?_, ?_, ?_⟩
    · cases hcase : given.package with
      | none => exact hpackage
      | some package => exact hchecked.package package hcase
    · cases hcase : given.baseClass with
      | none => exact hbase
      | some baseClass => exact hchecked.baseClass baseClass hcase
    · cases hcase : given.imports with
      | none => exact himports
      | some names =>
        intro name hname
        obtain ⟨entry, hentry, rfl⟩ := List.mem_map.1 hname
        exact hchecked.imports names hcase entry hentry

/-- A compiler that is given for a language names a program. -/
private theorem compiler_ne_nil {manifest : Manifest} (h : manifest.Checked) {language : Language}
    {command : List String} (hcommand : (manifest.settings language).compiler = some command) :
    command ≠ [] := by
  rw [Manifest.settings] at hcommand
  cases hgiven : manifest.section? language with
  | none =>
    rw [hgiven] at hcommand
    cases hcommand
  | some given =>
    rw [hgiven] at hcommand
    obtain ⟨compiler, hcompiler, rfl⟩ := Option.map_eq_some_iff.1 hcommand
    exact (h.sections language given hgiven).compiler compiler hcompiler

/-- A manifest that looks its version up with the pattern for that, exports its classpath, and sets
the package, an import of all names and the compiler of one language. -/
def exportingManifest : Manifest where
  project := { docs := ⟨["docs"], ⟨0, 0⟩⟩ }
  sdk := { source := some { file := "versions.js" } }
  classpath := { command := some ⟨["gradle", "-Psdk=\x7bversion\x7d"], ⟨0, 0⟩⟩ }
  java := some
    { package := some ⟨"com.acme", ⟨0, 0⟩⟩
      imports := some [⟨"java.util.*", ⟨0, 0⟩⟩]
      compiler := some ⟨["sh", "javac.sh"], ⟨0, 0⟩⟩ }

/-- A workspace with a file in which the version is found. -/
def versionedWorkspace : Workspace where
  files := ⟨[(["versions.js"], .file "current: \x7b label: ' 8.2.0' \x7d".toUTF8)]⟩

end SnippetCheck
