import SnippetCheck.Digest.Sha256
import SnippetCheck.Files.Path
import SnippetCheck.Text.Decimal

/-!
# Snippets

A snippet is one retained block of one document. Its identity is the document's path and
its rank in the document; its content hash is a function of its content alone.
-/

namespace SnippetCheck

/-- The hash under which results about a content are kept. Hashes read back from a file may
hold any text. -/
structure ContentHash where
  /-- The hexadecimal digits of the digest, or what a file gave in their place. -/
  text : String
  deriving DecidableEq, Repr

namespace ContentHash

/-- The hash of a content. -/
def of (content : String) : ContentHash :=
  ⟨Sha256.hexDigest content⟩

/-- The characters that the first `n` bytes of a text hold; none when the last of these
bytes lies inside a character. -/
def takeBytes : Nat → List Char → Option (List Char)
  | _, [] => some []
  | n, c :: s =>
    if n = 0 then some []
    else if c.utf8Size ≤ n then (takeBytes (n - c.utf8Size) s).map (c :: ·)
    else none

/-- The first twelve bytes of a hash, for display. -/
def short? (hash : ContentHash) : Option String :=
  (takeBytes 12 hash.text.toList).map String.ofList

end ContentHash

/-- Where a snippet stands: the path of its document, with forward slashes, and its rank
among the retained blocks of that document. -/
structure SnippetId where
  /-- Path of the document. -/
  file : String
  /-- Rank in the document, from zero. -/
  index : Nat
  deriving DecidableEq, Repr

namespace SnippetId

/-- The order of reports and baselines: by path, then by rank as a number. -/
def le (a b : SnippetId) : Bool :=
  a.file < b.file || (a.file = b.file && a.index ≤ b.index)

/-- The text of a location in reports. -/
def describe (id : SnippetId) : String :=
  s!"{id.file}  (snippet {id.index})"

end SnippetId

/-- One retained block of a document. -/
structure Snippet where
  /-- Where the block stands. -/
  id : SnippetId
  /-- The text of the block. -/
  content : String
  deriving DecidableEq, Repr

namespace Snippet

/-- The snippet of a block, with the path of its document normalized. -/
def new (file : String) (index : Nat) (content : String) : Snippet :=
  ⟨⟨Path.normalize file, index⟩, content⟩

/-- The hash of the content. -/
def hash (snippet : Snippet) : ContentHash :=
  ContentHash.of snippet.content

end Snippet

/-- Equal contents have equal hashes, whatever documents they stand in. -/
theorem Snippet.hash_eq_of_content_eq {a b : Snippet} (h : a.content = b.content) :
    a.hash = b.hash := by
  rw [hash, hash, h]

end SnippetCheck
