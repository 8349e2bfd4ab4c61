import SnippetCheck.ClassName
import SnippetCheck.Extraction
import SnippetCheck.Json.Writer
import SnippetCheck.Manifest.Basic
import SnippetCheck.Report.Rendering

/-!
# Listings

A listing shows the snippets of a language, each with the name of the class that it would be
compiled in. Nothing is compiled for it.
-/

namespace SnippetCheck

/-- What a listing shows of a snippet. -/
structure ListedSnippet where
  /-- The path of the document. -/
  file : String
  /-- The rank in the document. -/
  index : Nat
  /-- The first digits of the content hash. -/
  hash : String
  /-- The name of the class. -/
  className : String
  /-- How many lines the content has. -/
  lines : Nat
  deriving DecidableEq, Repr

/-- The snippets of a language. -/
structure Listing where
  /-- The language. -/
  language : Language
  /-- The snippets, in the order of a validation. -/
  snippets : List ListedSnippet
  deriving DecidableEq, Repr

namespace ListedSnippet

/-- What a listing shows of a snippet under the name of its class. -/
def of (snippet : Snippet) (className : String) : ListedSnippet where
  file := snippet.id.file
  index := snippet.id.index
  hash := snippet.hash.short?.getD ""
  className := className
  lines := (Text.readLines snippet.content.toList).length

/-- The JSON form. -/
def toJson (listed : ListedSnippet) : Json.Value :=
  .ofMembers [("file", .ofText listed.file), ("index", .ofNat listed.index),
    ("hash", .ofText listed.hash), ("class_name", .ofText listed.className),
    ("lines", .ofNat listed.lines)]

/-- The line of a listing. -/
def describe (listed : ListedSnippet) : String :=
  s!"{listed.file}  (snippet {listed.index})  {listed.hash}  {listed.className}"

end ListedSnippet

namespace Listing

/-- The listing of snippets. -/
def ofSnippets (language : Language) (snippets : List Snippet) : Listing where
  language := language
  snippets := snippets.zipWith .of (ClassName.allocate language.tag snippets)

/-- Which snippets a manifest is about, under a root. -/
def extraction (manifest : Manifest) (root : String) (language : Language) : Extraction where
  tag := language.tag
  base := root
  roots := manifest.project.docs.value
  extensions := manifest.project.extensions

/-- List the snippets of a language. -/
def run (manifest : Manifest) (root : String) (language : Language) (workspace : Workspace) :
    Except FileError Listing :=
  ((extraction manifest root language).run workspace).map (ofSnippets language)

/-- The JSON text of a listing. -/
def toText (listing : Listing) : String :=
  Json.prettyText (.ofMembers [("language", .ofText listing.language.displayName),
    ("snippets", .array (listing.snippets.map ListedSnippet.toJson))])

/-- What is written for a listing. -/
def render (listing : Listing) : Report.Rendering where
  output :=
    let name := listing.language.displayName
    if listing.snippets.isEmpty then [s!"No {name} snippets found."]
    else
      Report.heading s!"{name} snippets ({listing.snippets.length})" ::
        listing.snippets.map fun listed => Report.item listed.describe

end Listing

end SnippetCheck
