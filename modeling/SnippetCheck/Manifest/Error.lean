import SnippetCheck.SdkVersion
import SnippetCheck.Language
import SnippetCheck.Text.Identifier
import SnippetCheck.Toml.Value

/-!
# Manifest Errors

What can be wrong with a manifest, and what a reader of the message is told about it: a
message, a code, a hint and labels for places in the manifest.
-/

namespace SnippetCheck

/-- The keys that hold names. -/
inductive NameKey where
  | package
  | baseClass
  | importEntry
  deriving DecidableEq, Repr

/-- What is wrong with a version pattern. -/
inductive PatternFault where
  /-- The text is no pattern. -/
  | malformed
  /-- The pattern has no group. -/
  | noGroup
  deriving DecidableEq, Repr

/-- Why there is no SDK version. -/
inductive VersionFault where
  /-- The label is none. -/
  | label (fault : SdkVersionError)
  /-- Neither a version nor a file is given. -/
  | unset
  /-- The text given as a pattern is none. -/
  | pattern
  deriving DecidableEq, Repr

/-- What is wrong with a manifest or with what it refers to. -/
inductive ManifestError where
  /-- A file cannot be read. -/
  | unreadable (path : String)
  /-- The text is no manifest. -/
  | malformed
  /-- No directory of documents is listed. -/
  | noDocs (span : Toml.Span)
  /-- Both a version and a file are given. -/
  | versionAndSource
  /-- Neither a version nor a file is given. -/
  | noVersion
  /-- The version is none. -/
  | badVersion (fault : SdkVersionError) (span : Toml.Span)
  /-- The pattern for the version is of no use. -/
  | badPattern (pattern : String) (fault : PatternFault) (span : Toml.Span)
  /-- The classpath command is empty. -/
  | emptyCommand (span : Toml.Span)
  /-- A name is none. -/
  | badName (language : Language) (key : NameKey) (name : String) (fault : NameFault)
      (span : Toml.Span)
  /-- A compiler's command is empty. -/
  | emptyCompiler (language : Language) (span : Toml.Span)
  /-- The pattern finds no version in the file. -/
  | versionNotFound (path pattern : String)
  /-- There is no SDK version. -/
  | invalidVersion (fault : VersionFault)
  deriving DecidableEq, Repr

/-- How a key that holds names is called in messages. -/
def NameKey.describe : NameKey → String
  | .package => "package"
  | .baseClass => "base_class"
  | .importEntry => "imports entry"

/-- The message for a fault of a version pattern. -/
def PatternFault.message : PatternFault → String
  | .malformed => "not a valid pattern"
  | .noGroup => "pattern has no capture group"

/-- Why there is no SDK version, in words. -/
def VersionFault.message : VersionFault → String
  | .label fault => fault.message
  | .unset => "[sdk] sets neither 'version' nor 'from'"
  | .pattern => "not a valid pattern"

namespace ManifestError

/-- The message of an error. -/
def message : ManifestError → String
  | .unreadable path => s!"failed to read '{path}'"
  | .malformed => "failed to parse fence.toml"
  | .noDocs _ => "project.docs must list at least one documentation root"
  | .versionAndSource => "[sdk] must set exactly one of 'version' or 'from', not both"
  | .noVersion => "[sdk] must set either 'version' or 'from'"
  | .badVersion fault _ => s!"invalid SDK version: {fault.message}"
  | .badPattern pattern _ _ => s!"invalid version pattern '{pattern}'"
  | .emptyCommand _ => "classpath.command cannot be empty"
  | .badName language key name _ _ => s!"invalid {language.tag}.{key.describe} '{name}'"
  | .emptyCompiler language _ => s!"{language.tag}.compiler cannot be empty"
  | .versionNotFound path _ => s!"could not find the SDK version in '{path}'"
  | .invalidVersion fault => s!"invalid SDK version: {fault.message}"

/-- The code under which an error is documented. -/
def code? : ManifestError → Option String
  | .unreadable _ => none
  | .malformed => some "fence::parse_error"
  | .noDocs _ | .versionAndSource | .noVersion | .badVersion _ _ | .emptyCommand _
  | .emptyCompiler _ _ => some "fence::validation_error"
  | .badPattern _ _ _ => some "fence::invalid_pattern"
  | .badName _ _ _ _ _ => some "fence::invalid_name"
  | .versionNotFound _ _ => some "fence::sdk_version_not_found"
  | .invalidVersion _ => some "fence::invalid_sdk_version"

/-- What to do about an error. -/
def help? : ManifestError → Option String
  | .unreadable _ => some "create a fence.toml at the repository root or pass --config"
  | .badPattern _ _ _ =>
    some "the pattern must be a valid regex with one capture group for the version"
  | .badName _ _ _ fault _ => some (fault.message ++
      ". Use letters, digits and underscores, starting with a letter or underscore.")
  | .versionNotFound _ pattern =>
    some s!"no match for pattern '{pattern}'; set [sdk].version or fix [sdk].from.pattern"
  | _ => none

/-- The place in the manifest that an error is about, and what is said about it. -/
def label? (error : ManifestError) : Option (String × Toml.Span) :=
  match error with
  | .noDocs span | .badVersion _ span | .emptyCommand span | .emptyCompiler _ span =>
    some (error.message, span)
  | .badPattern _ fault span => some (fault.message, span)
  | .badName _ _ _ _ span => some ("invalid name", span)
  | _ => none

end ManifestError

end SnippetCheck
