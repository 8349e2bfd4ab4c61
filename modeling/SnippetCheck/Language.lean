import SnippetCheck.Text.Letters

/-!
# Snippet Languages
-/

namespace SnippetCheck

open SnippetCheck.Text

/-- The languages whose snippets can be checked. -/
inductive Language where
  | java
  | kotlin
  deriving DecidableEq, Repr

namespace Language

/-- Every language, in the order in which a manifest is checked. -/
def all : List Language := [.java, .kotlin]

/-- The tag of the language's code blocks. -/
def tag : Language → String
  | .java => "java"
  | .kotlin => "kotlin"

/-- The language's name in reports. -/
def displayName : Language → String
  | .java => "Java"
  | .kotlin => "Kotlin"

/-- The extension of the language's source files. -/
def extension : Language → String
  | .java => "java"
  | .kotlin => "kt"

/-- The language that a word names, in any case. -/
def ofText? (word : String) : Option Language :=
  let word := String.ofList (lower word.toList)
  if word = "java" then some .java
  else if word = "kotlin" || word = "kt" then some .kotlin
  else none

/-- The message for a word that names no language. -/
def unknownMessage (word : String) : String :=
  s!"unknown language '{word}', expected 'java' or 'kotlin'"

/-- The language that a word names, or the message that it names none. -/
def ofText (word : String) : Except String Language :=
  match ofText? word with
  | some language => .ok language
  | none => .error (unknownMessage word)

end Language

end SnippetCheck
