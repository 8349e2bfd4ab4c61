import SnippetCheck.Pattern.Search
import SnippetCheck.SdkVersion
import SnippetCheck.Settings
import SnippetCheck.Toml.Value

/-!
# Manifests

The manifest of a repository says where its documents are, which SDK version its snippets are
compiled against, where the classpath comes from, where generated files go, and what each
language's units are built from.
-/

namespace SnippetCheck

/-- A value that was read from a manifest, with its place in the text. -/
structure Marked (α : Type) where
  /-- The value. -/
  value : α
  /-- Its place. -/
  span : Toml.Span
  deriving DecidableEq, Repr

/-- The section on the repository. -/
structure ProjectSection where
  /-- The repository root, relative to the manifest's directory. -/
  root : Option String := none
  /-- The directories of documents, relative to the root. -/
  docs : Marked (List String)
  /-- The extensions of documents. -/
  extensions : List String := ["md", "mdx"]
  deriving DecidableEq, Repr

/-- A file that holds the SDK version. -/
structure VersionSource where
  /-- The file, relative to the root. -/
  file : String
  /-- The pattern whose first group is the version. -/
  pattern : Option (Marked String) := none
  deriving DecidableEq, Repr

/-- The section on the SDK version. -/
structure SdkSection where
  /-- The version itself. -/
  version : Option (Marked String) := none
  /-- Where to look the version up. -/
  source : Option VersionSource := none
  deriving DecidableEq, Repr

/-- The section on places for generated files, relative to the root. -/
structure PathsSection where
  /-- The directory of generated sources. -/
  generated : String := "validation/generated"
  /-- The parent of the directories of compiled classes. -/
  classes : String := "validation/build"
  /-- The directory of the caches. -/
  cache : String := "validation/cache"
  /-- The directory of the baselines. -/
  baselines : String := "validation/baselines"
  deriving DecidableEq, Repr

/-- The section on the classpath. -/
structure ClasspathSection where
  /-- The command that exports the classpath. -/
  command : Option (Marked (List String)) := none
  /-- Where the command runs. -/
  cwd : Option String := none
  /-- The file that the command writes the classpath to. -/
  output : Option String := none
  /-- Further entries. -/
  entries : List String := []
  deriving DecidableEq, Repr

/-- The section on one language. -/
structure LanguageSection where
  /-- The package of units. -/
  package : Option (Marked String) := none
  /-- The simple name of the base type. -/
  baseClass : Option (Marked String) := none
  /-- The source of the base type. -/
  baseSource : Option String := none
  /-- The imports of units. -/
  imports : Option (List (Marked String)) := none
  /-- The compiler's program and leading arguments. -/
  compiler : Option (Marked (List String)) := none
  deriving DecidableEq, Repr

/-- A manifest. -/
structure Manifest where
  /-- The repository. -/
  project : ProjectSection
  /-- The SDK version. -/
  sdk : SdkSection
  /-- Places for generated files. -/
  paths : PathsSection := {}
  /-- The classpath. -/
  classpath : ClasspathSection := {}
  /-- Java. -/
  java : Option LanguageSection := none
  /-- Kotlin. -/
  kotlin : Option LanguageSection := none
  deriving DecidableEq, Repr

/-- Where one language's generated files go. -/
structure LanguagePaths where
  /-- The directory of generated sources, which the languages share. -/
  generatedDir : String
  /-- The directory of compiled classes. -/
  classesDir : String
  /-- The cache. -/
  cacheFile : String
  /-- The baseline. -/
  baselineFile : String
  deriving DecidableEq, Repr

/-- Where a language's generated files go under a root. -/
def PathsSection.resolve (paths : PathsSection) (root : String) (language : Language) :
    LanguagePaths where
  generatedDir := Path.join root paths.generated
  classesDir := Path.join (Path.join root paths.classes) s!"snippet-{language.tag}-classes"
  cacheFile := Path.join (Path.join root paths.cache) s!"snippet-{language.tag}-cache.json"
  baselineFile := Path.join (Path.join root paths.baselines) s!"baseline-{language.tag}.json"

namespace Manifest

/-- The section on a language. -/
def section? (manifest : Manifest) : Language → Option LanguageSection
  | .java => manifest.java
  | .kotlin => manifest.kotlin

/-- The settings of a language: what its section says, and defaults for the rest. The default
place of a base type's source follows the name of the type. -/
def settings (manifest : Manifest) (language : Language) : Settings :=
  let base := Settings.default language
  match manifest.section? language with
  | none => base
  | some given =>
    let baseClass := (given.baseClass.map Marked.value).getD base.baseClass
    { language := language
      package := (given.package.map Marked.value).getD base.package
      baseClass := baseClass
      baseSource := given.baseSource.getD (Settings.baseSourceOf baseClass language)
      imports := (given.imports.map fun names => names.map Marked.value).getD base.imports
      compiler := given.compiler.map Marked.value }

/-- Where the repository root is, given the path of the manifest. -/
def rootAt (manifest : Manifest) (path : String) : String :=
  let dir := match Path.parent? path with
    | some parent => if parent = "" then "." else parent
    | none => "."
  match manifest.project.root with
  | some root => Path.join dir root
  | none => dir

/-- A language without a section has the default settings. -/
theorem settings_of_section?_eq_none {manifest : Manifest} {language : Language}
    (h : manifest.section? language = none) :
    manifest.settings language = Settings.default language := by
  simp [settings, h]

end Manifest

end SnippetCheck
