import SnippetCheck.Proofs.Manifest.Check
import SnippetCheck.Proofs.Text.Lines

/-!
# What A Manifest Has To Meet

A manifest has to meet a list of requirements, which follows the sections of the manifest
(`Manifest.requirements`). What it takes to meet one is said by the form of the names and texts in
it (`Requirement.Met`), and what is reported of one that is not met by what is wrong with it
(`Requirement.Reports`).

The check looks at the requirements in their order: it passes the manifests that meet all of them,
and of any other it reports the first one that is not met (`Manifest.check_first_unmet`).
-/

namespace SnippetCheck

open SnippetCheck.Text

/-! ## Names -/

/-- One or more identifiers with dots between them. -/
def IsDotted (name : List Char) : Prop :=
  ∃ segments : List (List Char), segments ≠ [] ∧ (∀ segment ∈ segments, IsIdentifier segment) ∧
    joinWith '.' segments = name

/-- What can be imported: one name, or all names of a package. -/
def IsImport (name : List Char) : Prop :=
  IsDotted name ∨ ∃ package, IsDotted package ∧ name = package ++ ['.', '*']

/-- What is wrong with a text that is no identifier. -/
inductive IdentifierFault : List Char → NameFault → Prop where
  /-- There is no name. -/
  | empty : IdentifierFault [] .empty
  /-- It starts with a character that starts no identifier. -/
  | badStart {c : Char} {rest : List Char} (h : isNameStart c = false) :
      IdentifierFault (c :: rest) .badStart
  /-- It starts well, and goes on with a character that is part of no identifier. -/
  | badCharacter {c d : Char} {rest : List Char} (hstart : isNameStart c = true) (hmem : d ∈ rest)
      (h : isNamePart d = false) : IdentifierFault (c :: rest) .badCharacter
  /-- It is well-formed, and reserved. -/
  | keyword {c : Char} {rest : List Char} (hstart : isNameStart c = true)
      (hrest : ∀ d ∈ rest, isNamePart d = true) (h : String.ofList (c :: rest) ∈ keywords) :
      IdentifierFault (c :: rest) .keyword

/-- What is wrong with a text that is no sequence of identifiers: nothing is there, or the first of
its segments that is no identifier is empty or has a fault. -/
inductive DottedFault : List Char → NameFault → Prop where
  /-- There is no name. -/
  | empty : DottedFault [] .empty
  /-- A segment is empty, and those before it are identifiers. -/
  | emptySegment {before after : List (List Char)} {name : List Char} (hname : name ≠ [])
      (hsplit : splitAt '.' name = before ++ [] :: after)
      (hbefore : ∀ segment ∈ before, IsIdentifier segment) : DottedFault name .emptySegment
  /-- A segment has a fault, and those before it are identifiers. -/
  | segment {before after : List (List Char)} {segment name : List Char} {fault : NameFault}
      (hsplit : splitAt '.' name = before ++ segment :: after)
      (hbefore : ∀ segment ∈ before, IsIdentifier segment) (hsegment : segment ≠ [])
      (h : IdentifierFault segment fault) : DottedFault name fault

variable {name segment : List Char} {fault : NameFault}

/-- The fault that is found in a name as an identifier is one that it has. -/
theorem identifierFault_of_eq_some (h : identifierFault? name = some fault) :
    IdentifierFault name fault := by
  cases name with
  | nil =>
    cases h
    exact .empty
  | cons c rest =>
    rw [identifierFault?] at h
    split at h
    next hstart =>
      cases h
      exact .badStart (by simpa using hstart)
    next hstart =>
      have hstart : isNameStart c = true := by simpa using hstart
      split at h
      next hrest =>
        cases h
        obtain ⟨d, hmem, hd⟩ : ∃ d ∈ rest, isNamePart d = false := by simpa using hrest
        exact .badCharacter hstart hmem hd
      next hrest =>
        have hrest : ∀ d ∈ rest, isNamePart d = true := by simpa using hrest
        split at h
        next hkeyword =>
          cases h
          exact .keyword hstart hrest (by simpa using hkeyword)
        next => cases h

/-- The fault that is found in a name as a sequence of identifiers is one that it has. -/
theorem dottedFault_of_eq_some (h : qualifiedFault? name = some fault) :
    DottedFault name fault := by
  cases name with
  | nil =>
    cases h
    exact .empty
  | cons c rest =>
    rw [qualifiedFault?, List.isEmpty_cons, if_neg Bool.false_ne_true] at h
    obtain ⟨before, segment, after, hsplit, hfault, hbefore⟩ := List.findSome?_eq_some_iff.1 h
    have hbefore : ∀ segment ∈ before, IsIdentifier segment := fun segment hmem =>
      (segmentFault?_eq_none_iff segment).1 (hbefore segment hmem)
    cases segment with
    | nil =>
      cases hfault
      exact .emptySegment (List.cons_ne_nil c rest) hsplit hbefore
    | cons d segment =>
      exact .segment hsplit hbefore (List.cons_ne_nil d segment) (identifierFault_of_eq_some hfault)

/-- There is no dot in an identifier. -/
theorem IsIdentifier.dot_not_mem (h : IsIdentifier segment) : '.' ∉ segment := by
  intro hmem
  exact absurd (h.isNamePart_of_mem hmem) (by decide)

/-- A name is a sequence of identifiers when each of its segments is one. -/
theorem isQualifiedName_iff_isDotted : IsQualifiedName name ↔ IsDotted name := by
  constructor
  · intro h
    exact ⟨splitAt '.' name, splitAt_ne_nil '.' name, h, joinWith_splitAt '.' name⟩
  · rintro ⟨segments, hne, hsegments, rfl⟩
    rw [IsQualifiedName, splitAt_joinWith hne fun segment hmem =>
      (hsegments segment hmem).dot_not_mem]
    exact hsegments

/-- A sequence of identifiers does not end in the mark of an import of all names. -/
theorem not_isDotted_append_wildcard (package : List Char) :
    ¬ IsDotted (package ++ ['.', '*']) := by
  rw [← isQualifiedName_iff_isDotted, IsQualifiedName, splitAt_append_cons]
  intro h
  -- the last segment would be the star
  have hstar : IsIdentifier ['*'] := h ['*'] (List.mem_append_right _ (by decide))
  exact absurd (hstar.isNamePart_of_mem List.mem_cons_self) (by decide)

/-- What is left of a name without the mark of an import of all names is a sequence of identifiers
when the name can be imported. -/
theorem isQualifiedName_withoutWildcard_iff :
    IsQualifiedName (withoutWildcard name) ↔ IsImport name := by
  rw [isQualifiedName_iff_isDotted, withoutWildcard, IsImport]
  split
  next hmark =>
    obtain ⟨package, rfl⟩ := List.isSuffixOf_iff_suffix.1 hmark
    have htake : (package ++ ['.', '*']).take ((package ++ ['.', '*']).length - 2) = package := by
      simp
    rw [htake]
    constructor
    · exact fun h => .inr ⟨package, h, rfl⟩
    · rintro (h | ⟨other, hother, heq⟩)
      · exact absurd h (not_isDotted_append_wildcard package)
      · rwa [List.append_cancel_right heq]
  next hmark =>
    refine ⟨.inl, fun h => h.resolve_right ?_⟩
    rintro ⟨package, -, rfl⟩
    exact hmark (List.isSuffixOf_iff_suffix.2 (List.suffix_append package ['.', '*']))

/-! ## Requirements -/

/-- Something that a manifest has to meet, with what it gives there. -/
inductive Requirement where
  /-- A directory of documents is listed. -/
  | docs (given : Marked (List String))
  /-- The SDK version is given in exactly one way. -/
  | oneVersion (given : SdkSection)
  /-- The SDK version is one. -/
  | version (given : Marked String)
  /-- The pattern for the SDK version has a group for it. -/
  | pattern (given : Marked String)
  /-- The command for the classpath names a program. -/
  | command (given : Marked (List String))
  /-- The package of a language is a sequence of identifiers. -/
  | package (language : Language) (given : Marked String)
  /-- The base type of a language is an identifier. -/
  | baseClass (language : Language) (given : Marked String)
  /-- An import of a language can be imported. -/
  | importEntry (language : Language) (given : Marked String)
  /-- The command of a compiler names a program. -/
  | compiler (language : Language) (given : Marked (List String))

namespace Requirement

/-- What it takes to meet a requirement. -/
def Met : Requirement → Prop
  | .docs given => given.value ≠ []
  | .oneVersion given =>
    (given.version ≠ none ∧ given.source = none) ∨ (given.version = none ∧ given.source ≠ none)
  | .version given =>
    trimmed given.value ≠ "" ∧ ∀ c ∈ (trimmed given.value).toList, isBlank c = false
  | .pattern given => ∃ node, Pattern.ofText? given.value = some node ∧ 1 < node.program.groups
  | .command given => given.value ≠ []
  | .package _ given => IsDotted given.value.toList
  | .baseClass _ given => IsIdentifier given.value.toList
  | .importEntry _ given => IsImport given.value.toList
  | .compiler _ given => given.value ≠ []

/-- What is reported of a requirement that is not met. -/
inductive Reports : Requirement → ManifestError → Prop where
  /-- No directory is listed. -/
  | noDocs {given} : Reports (.docs given) (.noDocs given.span)
  /-- The version is given in both ways. -/
  | versionAndSource {given} (hversion : given.version ≠ none) (hsource : given.source ≠ none) :
      Reports (.oneVersion given) .versionAndSource
  /-- The version is given in neither way. -/
  | noVersion {given} (hversion : given.version = none) (hsource : given.source = none) :
      Reports (.oneVersion given) .noVersion
  /-- The version is blank. -/
  | blankVersion {given} (h : trimmed given.value = "") :
      Reports (.version given) (.badVersion .empty given.span)
  /-- There is a blank within the version. -/
  | innerBlank {given} (h : ∃ c ∈ (trimmed given.value).toList, isBlank c = true) :
      Reports (.version given) (.badVersion (.innerBlank (trimmed given.value)) given.span)
  /-- The text given as a pattern is none. -/
  | noPattern {given} (h : Pattern.ofText? given.value = none) :
      Reports (.pattern given) (.badPattern given.value .malformed given.span)
  /-- The pattern has no group but the whole match. -/
  | noGroup {given node} (h : Pattern.ofText? given.value = some node)
      (hgroups : node.program.groups = 1) :
      Reports (.pattern given) (.badPattern given.value .noGroup given.span)
  /-- The command for the classpath is empty. -/
  | emptyCommand {given} : Reports (.command given) (.emptyCommand given.span)
  /-- The package has a fault. -/
  | package {language given fault} (h : DottedFault given.value.toList fault) :
      Reports (.package language given) (.badName language .package given.value fault given.span)
  /-- The base type has a fault. -/
  | baseClass {language given fault} (h : IdentifierFault given.value.toList fault) :
      Reports (.baseClass language given)
        (.badName language .baseClass given.value fault given.span)
  /-- The import has a fault, apart from the mark of an import of all names. -/
  | importEntry {language given fault}
      (h : DottedFault (withoutWildcard given.value.toList) fault) :
      Reports (.importEntry language given)
        (.badName language .importEntry given.value fault given.span)
  /-- The command of the compiler is empty. -/
  | emptyCompiler {language given} :
      Reports (.compiler language given) (.emptyCompiler language given.span)

/-- An error on an import reports that import. -/
theorem Reports.eq_importEntry {requirement : Requirement} {language : Language} {name : String}
    {fault : NameFault} {span : Toml.Span}
    (h : requirement.Reports (.badName language .importEntry name fault span)) :
    requirement = .importEntry language ⟨name, span⟩ := by
  generalize herror : ManifestError.badName language .importEntry name fault span = error at h
  cases h with
  | importEntry =>
    obtain ⟨rfl, -, rfl, -, rfl⟩ := ManifestError.badName.inj herror
    rfl
  | _ => cases herror

end Requirement

/-- What the section on the SDK version has to meet. -/
def SdkSection.requirements (given : SdkSection) : List Requirement :=
  .oneVersion given ::
    (given.version.toList.map .version ++
      (given.source.bind VersionSource.pattern).toList.map .pattern)

/-- What the section on a language has to meet. -/
def LanguageSection.requirements (language : Language) (given : LanguageSection) :
    List Requirement :=
  given.package.toList.map (.package language) ++
    (given.baseClass.toList.map (.baseClass language) ++
      ((given.imports.getD []).map (.importEntry language) ++
        given.compiler.toList.map (.compiler language)))

/-- What a manifest has to meet. -/
def Manifest.requirements (manifest : Manifest) : List Requirement :=
  .docs manifest.project.docs ::
    (manifest.sdk.requirements ++
      (manifest.classpath.command.toList.map .command ++
        (manifest.java.toList.flatMap (LanguageSection.requirements .java) ++
          manifest.kotlin.toList.flatMap (LanguageSection.requirements .kotlin))))

/-! ## Looking at requirements in order -/

/-- What comes of looking at requirements in order: the first one that is not met is reported. -/
inductive Reviewed : List Requirement → Except ManifestError Unit → Prop where
  /-- Nothing is left to look at. -/
  | nil : Reviewed [] (.ok ())
  /-- A requirement is met, and the others are looked at. -/
  | met {requirement requirements result} (h : requirement.Met)
      (hrest : Reviewed requirements result) : Reviewed (requirement :: requirements) result
  /-- A requirement is not met, and is reported. -/
  | unmet {requirement requirements error} (h : ¬ requirement.Met)
      (herror : requirement.Reports error) : Reviewed (requirement :: requirements) (.error error)

namespace Reviewed

variable {requirement : Requirement} {requirements others : List Requirement}
  {result next : Except ManifestError Unit} {error : ManifestError}

/-- Two checks in a row look at what the one looks at and then at what the other looks at. -/
theorem seq (h : Reviewed requirements result) (hnext : Reviewed others next) :
    Reviewed (requirements ++ others) (do result; next) := by
  induction h with
  | nil => exact hnext
  | met hmet _ ih => exact .met hmet ih
  | unmet hunmet herror => exact .unmet hunmet herror

/-- Nothing is reported just when all requirements are met. -/
theorem eq_ok_iff (h : Reviewed requirements result) :
    result = .ok () ↔ ∀ requirement ∈ requirements, requirement.Met := by
  induction h with
  | nil => simp
  | met hmet _ ih => rw [ih, List.forall_mem_cons, and_iff_right hmet]
  | unmet hunmet _ => exact ⟨fun h => (nomatch h), fun h => absurd (h _ List.mem_cons_self) hunmet⟩

/-- What is reported is the first requirement that is not met. -/
theorem exists_first_unmet (h : Reviewed requirements (.error error)) :
    ∃ before requirement after, requirements = before ++ requirement :: after ∧
      (∀ earlier ∈ before, earlier.Met) ∧ ¬ requirement.Met ∧ requirement.Reports error := by
  generalize hresult : Except.error error = result at h
  induction h with
  | nil => cases hresult
  | @met requirement requirements result hmet _ ih =>
    obtain ⟨before, first, after, rfl, hbefore, hfirst⟩ := ih hresult
    exact ⟨requirement :: before, first, after, rfl, List.forall_mem_cons.2 ⟨hmet, hbefore⟩, hfirst⟩
  | @unmet requirement requirements error hunmet herror =>
    cases hresult
    exact ⟨[], requirement, requirements, rfl, by simp, hunmet, herror⟩

/-- A condition that says whether a requirement is met looks at the requirement. -/
theorem ensure {condition : Bool} (hmet : condition = true ↔ requirement.Met)
    (herror : condition = false → requirement.Reports error) :
    Reviewed [requirement] (Manifest.ensure condition error) := by
  cases condition with
  | true => exact .met (hmet.1 rfl) .nil
  | false => exact .unmet (fun h => nomatch hmet.2 h) (herror rfl)

/-- The check of a name looks at the requirement that the name has no fault. -/
theorem checkName {language : Language} {key : NameKey} {name : Marked String}
    {fault : Option NameFault} (hmet : fault = none ↔ requirement.Met)
    (herror : ∀ found, fault = some found →
      requirement.Reports (.badName language key name.value found name.span)) :
    Reviewed [requirement] (Manifest.checkName language key name fault) := by
  cases fault with
  | none => exact .met (hmet.1 rfl) .nil
  | some found => exact .unmet (fun h => nomatch hmet.2 h) (herror found rfl)

/-- The check of what may be missing looks at what it has to meet if it is there. -/
theorem checkIfSome {α : Type} {check : α → Except ManifestError Unit}
    {meets : α → List Requirement} (h : ∀ value, Reviewed (meets value) (check value))
    (given : Option α) :
    Reviewed (given.toList.flatMap meets) (Manifest.checkIfSome check given) := by
  cases given with
  | none => exact .nil
  | some value => simpa [Manifest.checkIfSome] using h value

/-- The check of several things looks at what each of them has to meet, in their order. -/
theorem checkEach {α : Type} {check : α → Except ManifestError Unit} {meets : α → List Requirement}
    (h : ∀ value, Reviewed (meets value) (check value)) (values : List α) :
    Reviewed (values.flatMap meets) (Manifest.checkEach check values) := by
  induction values with
  | nil => exact .nil
  | cons value values ih => exact (h value).seq ih

/-! ## The checks of the sections -/

/-- The check of the package of a language. -/
theorem checkPackage (language : Language) (given : Marked String) :
    Reviewed [.package language given] (Manifest.checkPackage language given) :=
  checkName ((qualifiedFault?_eq_none_iff _).trans isQualifiedName_iff_isDotted)
    fun _ h => .package (dottedFault_of_eq_some h)

/-- The check of the base type of a language. -/
theorem checkBaseClass (language : Language) (given : Marked String) :
    Reviewed [.baseClass language given] (Manifest.checkBaseClass language given) :=
  checkName (identifierFault?_eq_none_iff _) fun _ h => .baseClass (identifierFault_of_eq_some h)

/-- The check of an import of a language. -/
theorem checkImport (language : Language) (given : Marked String) :
    Reviewed [.importEntry language given] (Manifest.checkImport language given) :=
  checkName ((qualifiedFault?_eq_none_iff _).trans isQualifiedName_withoutWildcard_iff)
    fun _ h => .importEntry (dottedFault_of_eq_some h)

/-- The check of the command of a compiler. -/
theorem checkCompiler (language : Language) (given : Marked (List String)) :
    Reviewed [.compiler language given] (Manifest.checkCompiler language given) :=
  ensure (by simp [Requirement.Met]) fun _ => .emptyCompiler

/-- The check of the section on a language. -/
theorem checkLanguage (language : Language) (given : LanguageSection) :
    Reviewed (given.requirements language) (Manifest.checkLanguage language given) := by
  simp only [LanguageSection.requirements, List.map_eq_flatMap]
  exact (checkIfSome (checkPackage language) given.package).seq
    ((checkIfSome (checkBaseClass language) given.baseClass).seq
      ((checkEach (checkImport language) (given.imports.getD [])).seq
        (checkIfSome (checkCompiler language) given.compiler)))

/-- The check of the pattern for the SDK version. -/
theorem checkPattern (given : Marked String) :
    Reviewed [.pattern given] (Manifest.checkPattern given) := by
  unfold Manifest.checkPattern
  split
  next hnone =>
    refine .unmet ?_ (.noPattern hnone)
    rintro ⟨node, hnode, -⟩
    rw [hnone] at hnode
    cases hnode
  next node hnode =>
    have hgroups : node.program.groups = node.lastGroup + 1 := rfl
    refine ensure ?_ fun hnot => .noGroup hnode ?_
    · simp [Requirement.Met, hnode, Pattern.Node.hasGroup, hgroups]
    · simpa [Pattern.Node.hasGroup, hgroups] using hnot

/-- The check of an SDK version that stands alone. -/
private theorem checkSdk_version (given : Marked String) :
    Reviewed [.version given] (Manifest.checkSdk ⟨some given, none⟩) := by
  obtain ⟨version, hversion, htext⟩ | ⟨hversion, hblank⟩ | ⟨hversion, hblank⟩ :=
    SdkVersion.ofText_cases given.value
  · simp only [Manifest.checkSdk, hversion]
    refine .met ⟨?_, ?_⟩ .nil
    · rw [← htext]
      exact version.text_ne_empty
    · rw [← htext]
      simpa using version.no_blank
  · simp only [Manifest.checkSdk, hversion]
    exact .unmet (fun h => h.1 hblank) (.blankVersion hblank)
  · simp only [Manifest.checkSdk, hversion]
    obtain ⟨c, hmem, hc⟩ := List.any_eq_true.1 hblank
    refine .unmet (fun h => ?_) (.innerBlank ⟨c, hmem, hc⟩)
    rw [h.2 c hmem] at hc
    cases hc

/-- The check of the section on the SDK version. -/
theorem checkSdk (given : SdkSection) :
    Reviewed given.requirements (Manifest.checkSdk given) := by
  -- neither, only a source, only a version, or both
  obtain ⟨_ | version, _ | source⟩ := given
  · exact .unmet (by simp [Requirement.Met]) (.noVersion rfl rfl)
  · refine .met (by simp [Requirement.Met]) ?_
    obtain ⟨file, _ | pattern⟩ := source
    · exact .nil
    · exact checkPattern pattern
  · exact .met (by simp [Requirement.Met]) (checkSdk_version version)
  · exact .unmet (by simp [Requirement.Met]) (.versionAndSource (by simp) (by simp))

/-- The check of the section on the classpath. -/
theorem checkClasspath (given : ClasspathSection) :
    Reviewed (given.command.toList.map .command) (Manifest.checkClasspath given) := by
  unfold Manifest.checkClasspath
  split
  next command hcommand =>
    rw [hcommand]
    exact ensure (by simp [Requirement.Met]) fun _ => .emptyCommand
  next hcommand =>
    rw [hcommand]
    exact .nil

/-- The check of a manifest. -/
theorem check (manifest : Manifest) : Reviewed manifest.requirements manifest.check := by
  have hdocs : Reviewed [.docs manifest.project.docs] (Manifest.checkDocs manifest.project.docs) :=
    ensure (by simp [Requirement.Met]) fun _ => .noDocs
  -- the sections are checked in the order in which their requirements are listed
  exact hdocs.seq ((checkSdk manifest.sdk).seq ((checkClasspath manifest.classpath).seq
    ((checkIfSome (checkLanguage .java) manifest.java).seq
      (checkIfSome (checkLanguage .kotlin) manifest.kotlin))))

end Reviewed

/-- A manifest with an import of one language that has an empty segment, and with a reserved word
for the base type of the other language. -/
def faultyManifest : Manifest where
  project := { docs := ⟨["docs"], ⟨17, 8⟩⟩ }
  sdk := { version := some ⟨" 8.2.0 ", ⟨43, 9⟩⟩ }
  java := some { imports := some [⟨"java.util.*", ⟨73, 13⟩⟩, ⟨"java..util", ⟨88, 12⟩⟩] }
  kotlin := some { baseClass := some ⟨"object", ⟨125, 8⟩⟩ }

end SnippetCheck
