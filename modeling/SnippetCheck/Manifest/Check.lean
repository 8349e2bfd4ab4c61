import SnippetCheck.Manifest.Decode
import SnippetCheck.Manifest.Error

/-!
# Checking Manifests

A manifest that was read is checked section by section; the first fault is reported.
-/

namespace SnippetCheck

open SnippetCheck.Text

namespace Manifest

/-- Check that a condition holds. -/
def ensure (condition : Bool) (error : ManifestError) : Except ManifestError Unit :=
  if condition then .ok () else .error error

/-- Check the directories of documents. -/
def checkDocs (docs : Marked (List String)) : Except ManifestError Unit :=
  ensure (!docs.value.isEmpty) (.noDocs docs.span)

/-- Check the pattern for a version. -/
def checkPattern (pattern : Marked String) : Except ManifestError Unit :=
  match Pattern.ofText? pattern.value with
  | none => .error (.badPattern pattern.value .malformed pattern.span)
  | some node => ensure node.hasGroup (.badPattern pattern.value .noGroup pattern.span)

/-- Check that the section on the SDK version gives one in exactly one way. -/
def checkSdk (sdk : SdkSection) : Except ManifestError Unit :=
  match sdk.version, sdk.source with
  | some _, some _ => .error .versionAndSource
  | none, none => .error .noVersion
  | some version, none =>
    match SdkVersion.ofText version.value with
    | .ok _ => .ok ()
    | .error fault => .error (.badVersion fault version.span)
  | none, some source =>
    match source.pattern with
    | some pattern => checkPattern pattern
    | none => .ok ()

/-- Check the section on the classpath. -/
def checkClasspath (classpath : ClasspathSection) : Except ManifestError Unit :=
  match classpath.command with
  | some command => ensure (!command.value.isEmpty) (.emptyCommand command.span)
  | none => .ok ()

/-- Report the fault of a name, if it has one. -/
def checkName (language : Language) (key : NameKey) (name : Marked String)
    (fault : Option NameFault) : Except ManifestError Unit :=
  match fault with
  | some fault => .error (.badName language key name.value fault name.span)
  | none => .ok ()

/-- Check the package of a language. -/
def checkPackage (language : Language) (package : Marked String) : Except ManifestError Unit :=
  checkName language .package package (qualifiedFault? package.value.toList)

/-- Check the base type of a language. -/
def checkBaseClass (language : Language) (baseClass : Marked String) :
    Except ManifestError Unit :=
  checkName language .baseClass baseClass (identifierFault? baseClass.value.toList)

/-- Check an import of a language, which may name all names of a package. -/
def checkImport (language : Language) (name : Marked String) : Except ManifestError Unit :=
  checkName language .importEntry name (qualifiedFault? (withoutWildcard name.value.toList))

/-- Check a compiler's command. -/
def checkCompiler (language : Language) (compiler : Marked (List String)) :
    Except ManifestError Unit :=
  ensure (!compiler.value.isEmpty) (.emptyCompiler language compiler.span)

/-- Check what is there. -/
def checkIfSome (check : α → Except ManifestError Unit) : Option α → Except ManifestError Unit
  | some value => check value
  | none => .ok ()

/-- Check each of several things, in order. -/
def checkEach (check : α → Except ManifestError Unit) : List α → Except ManifestError Unit
  | [] => .ok ()
  | value :: values => do
    check value
    checkEach check values

/-- Check the section on a language. -/
def checkLanguage (language : Language) (given : LanguageSection) :
    Except ManifestError Unit := do
  checkIfSome (checkPackage language) given.package
  checkIfSome (checkBaseClass language) given.baseClass
  checkEach (checkImport language) (given.imports.getD [])
  checkIfSome (checkCompiler language) given.compiler

/-- Check a manifest. -/
def check (manifest : Manifest) : Except ManifestError Unit := do
  checkDocs manifest.project.docs
  checkSdk manifest.sdk
  checkClasspath manifest.classpath
  checkIfSome (checkLanguage .java) manifest.java
  checkIfSome (checkLanguage .kotlin) manifest.kotlin

/-- The manifest in a text, if it is one and has no fault. -/
def ofText (text : String) : Except ManifestError Manifest :=
  match read? text with
  | none => .error .malformed
  | some manifest =>
    match manifest.check with
    | .error error => .error error
    | .ok () => .ok manifest

end Manifest

namespace SdkSection

/-- The pattern that a source of the version is searched with when none is given: it finds the
label of the current version in a configuration of versions. -/
def defaultPattern : String :=
  "current\\s*:\\s*\\\x7b[^\x7d]*?label\\s*:\\s*['\"]([^'\"]+)['\"]"

end SdkSection

/-- The pattern that a source of the version is searched with. -/
def VersionSource.searchPattern (source : VersionSource) : String :=
  (source.pattern.map Marked.value).getD SdkSection.defaultPattern

namespace SdkSection

/-- Read a version that was found or given. -/
def readVersion (text : String) : Except ManifestError SdkVersion :=
  match SdkVersion.ofText text with
  | .ok version => .ok version
  | .error fault => .error (.invalidVersion (.label fault))

/-- The SDK version. One that is given is taken; else the first group of the first match in
the file is. `read` gives the text of a file that can be read. -/
def resolve (sdk : SdkSection) (root : String) (read : String → Option String) :
    Except ManifestError SdkVersion :=
  match sdk.version, sdk.source with
  | some version, _ => readVersion version.value
  | none, none => .error (.invalidVersion .unset)
  | none, some source =>
    let path := Path.join root source.file
    match read path with
    | none => .error (.unreadable path)
    | some text =>
      match Pattern.ofText? source.searchPattern with
      | none => .error (.invalidVersion .pattern)
      | some node =>
        match (node.firstGroups? text.toList).bind fun groups => (groups[1]?).join with
        | none => .error (.versionNotFound path source.searchPattern)
        | some found => readVersion (String.ofList found)

end SdkSection

end SnippetCheck
