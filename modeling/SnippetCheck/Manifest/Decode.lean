import SnippetCheck.Manifest.Basic
import SnippetCheck.Toml.Reader

/-!
# Reading Manifests

The sections of a manifest are read from the tables of a TOML document. A section may also
be an array, which gives the keys of the section values in their order. No section takes a
key that it does not know.
-/

namespace SnippetCheck

open Toml

/-- The keys of a section with the values that a document gives them. -/
structure Fields where
  /-- The value of a key, if it has one. -/
  get : String → Option Value

namespace Fields

/-- The fields of a table that has no keys but the given ones. -/
def ofEntries? (names : List String) (entries : Entries) : Option Fields :=
  if entries.all fun (key, _) => names.contains key then
    some ⟨fun name => Entries.find? name entries⟩
  else none

/-- The fields of a section. -/
def ofValue? (names : List String) : Value → Option Fields
  | .table _ entries => ofEntries? names entries
  | .array _ _ items => some ⟨fun name => (names.zip items).lookup name⟩
  | _ => none

/-- The value of a key that has to be there. -/
def required (fields : Fields) (name : String) (decode : Value → Option α) : Option α :=
  (fields.get name).bind decode

/-- The value of a key that may be missing. -/
def optional (fields : Fields) (name : String) (decode : Value → Option α) :
    Option (Option α) :=
  match fields.get name with
  | none => some none
  | some value => (decode value).map some

/-- The value of a key, or the given one if the key is missing. -/
def withDefault (fields : Fields) (name : String) (fallback : α) (decode : Value → Option α) :
    Option α :=
  (fields.optional name decode).map fun value => value.getD fallback

end Fields

namespace Decode

/-- A string. -/
def text : Value → Option String
  | .text _ content => some content
  | _ => none

/-- A list of what `decode` reads. -/
def list (decode : Value → Option α) : Value → Option (List α)
  | .array _ _ items => items.mapM decode
  | _ => none

/-- A string with its place. -/
def markedText : Value → Option (Marked String)
  | .text span content => some ⟨content, span⟩
  | _ => none

/-- A list of strings with its place. -/
def markedTexts : Value → Option (Marked (List String))
  | .array span ofTables items =>
    (list text (.array span ofTables items)).map fun value => ⟨value, span⟩
  | _ => none

/-- The section on the repository. -/
def project (value : Value) : Option ProjectSection := do
  let fields ← Fields.ofValue? ["root", "docs", "extensions"] value
  let root ← fields.optional "root" text
  let docs ← fields.required "docs" markedTexts
  let extensions ← fields.withDefault "extensions" ["md", "mdx"] (list text)
  return { root, docs, extensions }

/-- A file that holds the SDK version. -/
def versionSource (value : Value) : Option VersionSource := do
  let fields ← Fields.ofValue? ["file", "pattern"] value
  let file ← fields.required "file" text
  let pattern ← fields.optional "pattern" markedText
  return { file, pattern }

/-- The keys of the section on the SDK version. -/
def sdkKeys : List String := ["version", "from"]

/-- The section on the SDK version, from its fields. -/
def sdkFields (fields : Fields) : Option SdkSection := do
  let version ← fields.optional "version" markedText
  let source ← fields.optional "from" versionSource
  return { version, source }

/-- The section on the SDK version. -/
def sdk (value : Value) : Option SdkSection :=
  (Fields.ofValue? sdkKeys value).bind sdkFields

/-- The section on places for generated files. -/
def paths (value : Value) : Option PathsSection := do
  let fields ← Fields.ofValue? ["generated", "classes", "cache", "baselines"] value
  let base : PathsSection := {}
  let generated ← fields.withDefault "generated" base.generated text
  let classes ← fields.withDefault "classes" base.classes text
  let cache ← fields.withDefault "cache" base.cache text
  let baselines ← fields.withDefault "baselines" base.baselines text
  return { generated, classes, cache, baselines }

/-- The section on the classpath. -/
def classpath (value : Value) : Option ClasspathSection := do
  let fields ← Fields.ofValue? ["command", "cwd", "output", "entries"] value
  let command ← fields.optional "command" markedTexts
  let cwd ← fields.optional "cwd" text
  let output ← fields.optional "output" text
  let entries ← fields.withDefault "entries" [] (list text)
  return { command, cwd, output, entries }

/-- The section on one language. -/
def language (value : Value) : Option LanguageSection := do
  let fields ← Fields.ofValue? ["package", "base_class", "base_source", "imports", "compiler"] value
  let package ← fields.optional "package" markedText
  let baseClass ← fields.optional "base_class" markedText
  let baseSource ← fields.optional "base_source" text
  let imports ← fields.optional "imports" (list markedText)
  let compiler ← fields.optional "compiler" markedTexts
  return { package, baseClass, baseSource, imports, compiler }

end Decode

/-- The manifest that the entries of a document make up. -/
def Manifest.ofEntries? (entries : Entries) : Option Manifest := do
  let fields ← Fields.ofEntries? ["project", "sdk", "paths", "classpath", "java", "kotlin"] entries
  let project ← fields.required "project" Decode.project
  let sdk ← fields.required "sdk" Decode.sdk
  let paths ← fields.withDefault "paths" {} Decode.paths
  let classpath ← fields.withDefault "classpath" {} Decode.classpath
  let java ← fields.optional "java" Decode.language
  let kotlin ← fields.optional "kotlin" Decode.language
  return { project, sdk, paths, classpath, java, kotlin }

/-- The manifest in a text, before it is checked. -/
def Manifest.read? (text : String) : Option Manifest :=
  (Toml.ofText? text).bind Manifest.ofEntries?

/-- The section on the SDK version whose keys are a whole document. -/
def SdkSection.read? (text : String) : Option SdkSection :=
  (Toml.ofText? text).bind fun entries =>
    (Fields.ofEntries? Decode.sdkKeys entries).bind Decode.sdkFields

end SnippetCheck
