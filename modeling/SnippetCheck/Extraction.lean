import SnippetCheck.Document
import SnippetCheck.Files.Change
import SnippetCheck.Ordered

/-!
# Extraction

The documents of a repository are the files with a document extension under its directories
of documents. A document is known by its path relative to the repository root. Snippets come
in the order of their documents' paths, and in the order of their blocks within a document.
-/

namespace SnippetCheck

open Files

/-- Where documents are and which blocks of theirs are wanted. -/
structure Extraction where
  /-- The tag of the blocks. -/
  tag : String
  /-- The repository root. -/
  base : String
  /-- The directories of documents, relative to the root. -/
  roots : List String
  /-- The extensions of documents. -/
  extensions : List String

namespace Extraction

/-- Whether a path has a document extension. -/
def isDocument (extraction : Extraction) (path : String) : Bool :=
  match Path.extension? path with
  | some extension => extraction.extensions.contains extension
  | none => false

/-- What a document is known by. -/
def key (extraction : Extraction) (path : String) : String :=
  Path.normalize ((Path.stripPrefix? path extraction.base).getD path)

/-- The paths of the files at and below a path. -/
def filesUnder (workspace : Workspace) (path : String) : List String :=
  match workspace.files.locate workspace.cwd path with
  | .error _ => []
  | .ok location =>
    match workspace.files.get? location with
    | none => []
    | some (.file _) => [path]
    | some .directory => (workspace.files.filesBelow location).map fun names =>
      names.foldl Path.join path

/-- The paths of the documents, each with what the document is known by, in order. -/
def documents (extraction : Extraction) (workspace : Workspace) : List (String × String) :=
  let paths := extraction.roots.flatMap fun root =>
    (filesUnder workspace (Path.join extraction.base root)).filter extraction.isDocument
  Ordered.ofList Prod.fst (paths.map fun path => (extraction.key path, path))

/-- The snippets of a document. -/
def snippetsOf (extraction : Extraction) (workspace : Workspace) :
    String × String → Except FileError (List Snippet)
  | (key, path) =>
    match workspace.readText path with
    | .ok text => .ok (Document.snippets extraction.tag key text)
    | .error _ => .error (.notRead path)

/-- The snippets of all documents. -/
def run (extraction : Extraction) (workspace : Workspace) : Except FileError (List Snippet) :=
  ((extraction.documents workspace).mapM (extraction.snippetsOf workspace)).map List.flatten

end Extraction

end SnippetCheck
