import SnippetCheck.Code
import SnippetCheck.Settings
import SnippetCheck.Source.Imports
import SnippetCheck.Source.Visibility

/-!
# Java Units

A Java unit is a class whose one method holds the body of a snippet. The imports of the
snippet follow the configured ones, and every other line keeps a line of its own in the
method.
-/

namespace SnippetCheck.Java

open SnippetCheck.Text SnippetCheck.Source

/-- Access modifiers of classes, interfaces and enumerations. -/
def visibility : VisibilityRule where
  modifiers := ["public".toList, "private".toList, "protected".toList]
  qualifiers := []
  kinds := ["class".toList, "interface".toList, "enum".toList]

/-- The body of the method: the lines that import nothing, with ellipses marked and access
modifiers removed. -/
def body (content : List Char) : List Char :=
  stripVisibility visibility (joinLines ((bodyLines content).map markEllipsis))

/-- The import lines of a unit, the configured ones first. -/
def importLines (settings : Settings) (content : List Char) : List (List Char) :=
  (settings.imports.map fun name => s!"import {name};".toList) ++ imports content

/-- Add import lines and a bare line after them; add nothing if there are none. -/
def addImports (lines : List (List Char)) (code : Code) : Code :=
  if lines.isEmpty then code else (lines.foldl Code.addLine code).addBlank

/-- The unit of a snippet under the name of its class. -/
def unit (settings : Settings) (className : String) (snippet : Snippet) : Code :=
  let content := snippet.content.toList
  let head := (Code.empty.addLine s!"package {settings.package};".toList).addBlank
  let head := (addImports (importLines settings content) head).addLine
    s!"// Source: {snippet.id.file}, snippet {snippet.id.index}".toList
  let head := head.addLine "@SuppressWarnings(\"all\")".toList
  let header := s!"public class {className} extends {settings.baseClass} \x7b".toList
  head.addBlock header "\x7d".toList fun code =>
    code.addBlank.addBlock "void validate() throws Exception \x7b".toList "\x7d".toList fun code =>
      code.addLines (body content)

end SnippetCheck.Java
