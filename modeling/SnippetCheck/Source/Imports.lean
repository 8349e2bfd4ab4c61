import SnippetCheck.Text.Blank
import SnippetCheck.Text.Lines
import SnippetCheck.Document

/-!
# Imports And Ellipses

The lines of a snippet that import a name are set apart from its body, and a body line that
only stands for left-out code becomes a comment, so that the lines of the body keep their
places.
-/

namespace SnippetCheck.Source

open SnippetCheck.Text

/-- How an import line starts, after its indentation. -/
def importWord : List Char := "import ".toList

/-- Whether a line imports a name. -/
def isImport (line : List Char) : Bool :=
  importWord.isPrefixOf (trimStart line)

/-- The trimmed import lines of a text, in order. -/
def imports (s : List Char) : List (List Char) :=
  ((splitLines s).filter isImport).map trim

/-- The other lines of a text, in order. -/
def bodyLines (s : List Char) : List (List Char) :=
  (splitLines s).filter fun line => !isImport line

/-- What a line that only stands for left-out code is written as. -/
def ellipsisMarker : List Char := "// ...".toList

/-- A line, or the marker if the line is an ellipsis. -/
def markEllipsis (line : List Char) : List Char :=
  if Document.isEllipsis line then ellipsisMarker else line

/-- Every line that imports a name is taken out of the body, and no other. -/
theorem length_imports_add_length_bodyLines (s : List Char) :
    (imports s).length + (bodyLines s).length = (splitLines s).length := by
  rw [imports, bodyLines, List.length_map, ← List.countP_eq_length_filter,
    ← List.countP_eq_length_filter, List.length_eq_countP_add_countP isImport]
  simp

end SnippetCheck.Source
