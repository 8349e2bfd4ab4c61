import SnippetCheck.ClassName
import SnippetCheck.Wrap.Kotlin

/-!
# Source Units

A source unit is the file that is compiled for one snippet.
-/

namespace SnippetCheck

/-- The source of one snippet's class. -/
structure SourceUnit where
  /-- The snippet. -/
  snippet : Snippet
  /-- The name of its class. -/
  className : String
  /-- The text of the source file. -/
  source : String
  /-- The extension of the source file. -/
  extension : String
  deriving DecidableEq, Repr

namespace SourceUnit

/-- The text of a snippet's source file. -/
def wrap (settings : Settings) (className : String) (snippet : Snippet) : String :=
  match settings.language with
  | .java => (Java.unit settings className snippet).toText
  | .kotlin => (Kotlin.unit settings className snippet).toText

/-- The unit of a snippet under the name of its class. -/
def new (settings : Settings) (snippet : Snippet) (className : String) : SourceUnit where
  snippet := snippet
  className := className
  source := wrap settings className snippet
  extension := settings.language.extension

/-- The name of the source file. -/
def fileName (sourceUnit : SourceUnit) : String :=
  sourceUnit.className ++ "." ++ sourceUnit.extension

/-- The path of the source file in a directory. -/
def pathIn (dir : String) (sourceUnit : SourceUnit) : String :=
  Path.join dir sourceUnit.fileName

/-- The units of several snippets, with their allocated names. -/
def ofSnippets (settings : Settings) (snippets : List Snippet) : List SourceUnit :=
  snippets.zipWith (new settings) (ClassName.allocate settings.language.tag snippets)

end SourceUnit

end SnippetCheck
