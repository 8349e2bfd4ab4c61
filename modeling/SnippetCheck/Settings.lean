import SnippetCheck.Files.Path
import SnippetCheck.Language

/-!
# Language Settings

What one language's units are built from and compiled with.
-/

namespace SnippetCheck

/-- The settings of one language. -/
structure Settings where
  /-- The language. -/
  language : Language
  /-- The package of every unit. -/
  package : String
  /-- The simple name of the type that every unit extends. -/
  baseClass : String
  /-- The source of that type, relative to the repository root. -/
  baseSource : String
  /-- The names that every unit imports. -/
  imports : List String
  /-- The compiler's program and leading arguments, when they are given. -/
  compiler : Option (List String)
  deriving DecidableEq, Repr

namespace Settings

/-- Where the source of a base type is expected. -/
def baseSourceOf (baseClass : String) (language : Language) : String :=
  Path.join "validation/base" (baseClass ++ "." ++ language.extension)

/-- The name of a language's base type when none is given. -/
def defaultBaseClass : Language → String
  | .java => "ValidationBaseJava"
  | .kotlin => "ValidationBase"

/-- The imports of a language's units when none are given. -/
def defaultImports : Language → List String
  | .java => ["androidx.annotation.NonNull", "androidx.annotation.Nullable", "java.util.ArrayList",
      "java.util.Arrays", "java.util.EnumSet", "java.util.HashSet", "java.util.List"]
  | .kotlin => []

/-- The settings of a language for which nothing is configured. -/
def default (language : Language) : Settings where
  language := language
  package := "com.example.validation"
  baseClass := defaultBaseClass language
  baseSource := baseSourceOf (defaultBaseClass language) language
  imports := defaultImports language
  compiler := none

end Settings

end SnippetCheck
