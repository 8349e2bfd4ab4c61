import SnippetCheck.Source.Relocation
import SnippetCheck.Wrap.Java

/-!
# Kotlin Units

A Kotlin unit is a class whose one function holds the body of a snippet. Objects declared at
the left margin move in front of the class, and companion objects move into it, in front of
the function.
-/

namespace SnippetCheck.Kotlin

open SnippetCheck.Text SnippetCheck.Source SnippetCheck.Document

/-- Visibility modifiers of classes and interfaces. -/
def visibility : VisibilityRule where
  modifiers := ["public".toList, "private".toList, "protected".toList, "internal".toList]
  qualifiers := ["data".toList, "enum".toList, "sealed".toList, "abstract".toList, "open".toList,
    "inner".toList]
  kinds := ["class".toList, "interface".toList]

/-- The modifiers that a top-level object may carry. -/
def objectModifiers : List (List Char) :=
  ["private".toList, "internal".toList, "public".toList]

/-- Whether a line declares a companion object at the left margin. -/
def isCompanion (line : List Char) : Bool :=
  match (after? "companion".toList line).bind afterBlanks? with
  | some (_, rest) => "object".toList.isPrefixOf rest
  | none => false

/-- Whether a line starts with the word for an object and its name. -/
def startsObject (line : List Char) : Bool :=
  match (after? "object".toList line).bind afterBlanks? with
  | some (_, c :: _) => isWord c
  | _ => false

/-- Whether a line declares a named object at the left margin, with a modifier or without. -/
def isObject (line : List Char) : Bool :=
  startsObject line ||
    match (afterWord? objectModifiers line).bind fun (_, rest) => afterBlanks? rest with
    | some (_, rest) => startsObject rest
    | none => false

/-- Where the declaration that a line starts has to go, if it cannot stay. -/
def classify (line : List Char) : Option Scope :=
  if isCompanion line then some .type else if isObject line then some .file else none

/-- The lines of a snippet that import nothing, with ellipses marked, split into lifted
blocks and remaining lines. -/
def relocated (content : List Char) : Relocated :=
  relocate classify ((bodyLines content).map markEllipsis)

/-- The body of the function: the remaining lines with visibility modifiers removed. -/
def body (content : List Char) : List Char :=
  stripVisibility visibility (joinLines (relocated content).remaining)

/-- The import lines of a unit, the configured ones first. -/
def importLines (settings : Settings) (content : List Char) : List (List Char) :=
  (settings.imports.map fun name => s!"import {name}".toList) ++ imports content

/-- Add a lifted block and a bare line after it. -/
def addLifted (code : Code) (block : List (List Char)) : Code :=
  (code.addLines (joinLines block)).addBlank

/-- The unit of a snippet under the name of its class. -/
def unit (settings : Settings) (className : String) (snippet : Snippet) : Code :=
  let content := snippet.content.toList
  let split := relocated content
  let head := (Code.empty.addLine s!"package {settings.package}".toList).addBlank
  let head := Java.addImports (importLines settings content) head
  let head := (split.fileScope.foldl addLifted head).addLine
    s!"// Source: {snippet.id.file}, snippet {snippet.id.index}".toList
  let head := head.addLine "@Suppress(\"all\")".toList
  head.addBlock s!"class {className} : {settings.baseClass}() \x7b".toList "\x7d".toList fun code =>
    (split.typeScope.foldl addLifted code).addBlock "fun validate() \x7b".toList "\x7d".toList
      fun code => code.addLines (body content)

end SnippetCheck.Kotlin
