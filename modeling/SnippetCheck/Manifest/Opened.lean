import SnippetCheck.Manifest.Check
import SnippetCheck.Workspace

/-!
# Opened Manifests

A manifest that was read from a file of a workspace. Its paths are relative to the directory
of the file.
-/

namespace SnippetCheck

/-- A manifest with the file that it was read from. -/
structure OpenedManifest where
  /-- The path of the file. -/
  path : String
  /-- The text of the file. -/
  text : String
  /-- The manifest. -/
  manifest : Manifest

namespace OpenedManifest

/-- Read the manifest in a file. -/
def load (workspace : Workspace) (path : String) : Except ManifestError OpenedManifest :=
  match workspace.readText path with
  | .error _ => .error (.unreadable path)
  | .ok text => (Manifest.ofText text).map fun manifest => { path, text, manifest }

/-- The repository root. -/
def root (opened : OpenedManifest) : String :=
  opened.manifest.rootAt opened.path

end OpenedManifest

/-- The SDK version that a section gives under a root. -/
def SdkSection.resolveIn (sdk : SdkSection) (workspace : Workspace) (root : String) :
    Except ManifestError SdkVersion :=
  sdk.resolve root fun path => (workspace.readText path).toOption

end SnippetCheck
