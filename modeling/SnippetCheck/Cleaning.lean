import SnippetCheck.Files.Change
import SnippetCheck.Manifest.Basic
import SnippetCheck.Report.Rendering

/-!
# Cleaning

Cleaning removes what validations of one language have left: its generated sources, its
compiled classes and its cache. The baseline and what belongs to the other language stay.
-/

namespace SnippetCheck

/-- What was removed. -/
structure Cleaning where
  /-- The language. -/
  language : Language
  /-- How many generated sources were removed. -/
  sources : Nat
  /-- The paths of what else was removed. -/
  removed : List String
  deriving DecidableEq, Repr

namespace Cleaning

/-- Remove what validations of a language have left. -/
def run (manifest : Manifest) (root : String) (language : Language) :
    Action FileError Cleaning := do
  let paths := manifest.paths.resolve root language
  let sources ← Action.removeFilesWithExtension paths.generatedDir language.extension
  let classes ← Action.removeDirectoryIfPresent paths.classesDir
  let cache ← Action.removeFileIfPresent paths.cacheFile
  let removed := (if classes then [paths.classesDir] else []) ++
    if cache then [paths.cacheFile] else []
  return { language, sources, removed }

/-- Whether nothing was removed. -/
def isEmpty (cleaning : Cleaning) : Bool :=
  cleaning.sources = 0 && cleaning.removed.isEmpty

/-- What is written for a cleaning. -/
def render (cleaning : Cleaning) : Report.Rendering where
  output :=
    let name := cleaning.language.displayName
    if cleaning.isEmpty then [s!"No {name} build state found."]
    else
      let sources := if 0 < cleaning.sources then
          [Report.counted cleaning.sources s!"generated {name} source"] else []
      Report.heading "Deleted" :: (sources ++ cleaning.removed).map Report.item

end Cleaning

end SnippetCheck
