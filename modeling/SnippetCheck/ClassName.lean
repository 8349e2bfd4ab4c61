import SnippetCheck.Language
import SnippetCheck.Snippet
import SnippetCheck.Text.Slug

/-!
# Class Names

Every snippet is compiled in a class of its own. The class is named for the language, the
document and the rank of the snippet. Different paths can have one slug; the snippets that
share a name for that reason get the start of a digest of their path appended. There is one
name per snippet, in the order of the snippets (`length_allocate`).
-/

namespace SnippetCheck.ClassName

open SnippetCheck.Text

/-- The name of a snippet's class, before names that several snippets share are told apart. -/
def base (tag : String) (snippet : Snippet) : String :=
  let index := String.ofList (decimalPadded 3 snippet.id.index)
  s!"Snippet_{tag}_{slugOf snippet.id.file}_{index}"

/-- The first eight digits of the digest of a text. -/
def shortDigest (s : String) : String :=
  String.ofList ((Sha256.hexDigest s).toList.take 8)

/-- The base names of several snippets. -/
def bases (tag : String) (snippets : List Snippet) : List String :=
  snippets.map (base tag)

/-- The class names of several snippets, in their order. -/
def allocate (tag : String) (snippets : List Snippet) : List String :=
  let all := bases tag snippets
  snippets.map fun snippet =>
    let name := base tag snippet
    if 1 < all.count name then s!"{name}_{shortDigest snippet.id.file}" else name

/-- The base names that several snippets share, in order. -/
def collisions (tag : String) (snippets : List Snippet) : List String :=
  let all := bases tag snippets
  (all.eraseDups.filter fun name => 1 < all.count name).mergeSort fun a b => a ≤ b

/-- There is one name per snippet. -/
@[simp]
theorem length_allocate (tag : String) (snippets : List Snippet) :
    (allocate tag snippets).length = snippets.length := by
  simp [allocate]

end SnippetCheck.ClassName
