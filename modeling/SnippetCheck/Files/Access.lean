import SnippetCheck.Files.Path
import SnippetCheck.Files.Tree

/-!
# Access By Path

A path is followed part by part, from the working directory or, if it is absolute, from the
root. Every part needs a directory to be followed from, also a part that names no step.
-/

namespace SnippetCheck.Files

open SnippetCheck.Text

/-- Why an access by path is refused. -/
inductive Refusal where
  /-- Nothing stands there. -/
  | notFound
  /-- A directory is needed, and a file stands there. -/
  | notDirectory
  /-- A file is needed, and a directory stands there. -/
  | isDirectory
  /-- The bytes of the file are no text. -/
  | notText
  /-- The path holds what no name can hold, or is too long. -/
  | unusable
  deriving DecidableEq, Repr

/-- The parts of a path. -/
def parts (path : String) : List String :=
  (splitAt '/' path.toList).map String.ofList

/-- Whether a path can be followed at all: it is not too long and holds no NUL. -/
def isUsable (path : String) : Bool :=
  path.utf8ByteSize < 4096 && !path.toList.contains '\x00'

/-- Where a path starts. -/
def start (cwd : Location) (path : String) : Location :=
  if Path.isAbsolute path.toList then [] else cwd

/-- The last part of a path that is not empty, if it is a name. -/
def lastName? (path : String) : Option String :=
  (((parts path).filter fun part => part ≠ "").getLast?).filter fun part =>
    part ≠ "." && part ≠ ".."

namespace Tree

/-- Follow one part of a path. The root is above itself. -/
def enter (tree : Tree) (location : Location) (part : String) : Except Refusal Location :=
  match tree.get? location with
  | none => .error .notFound
  | some (.file _) => .error .notDirectory
  | some .directory =>
    if part = "" || part = "." then .ok location
    else if part = ".." then .ok location.dropLast
    else if 255 < part.utf8ByteSize then .error .unusable
    else .ok (location ++ [part])

/-- The location that a path leads to, where nothing has to stand. -/
def locate (tree : Tree) (cwd : Location) (path : String) : Except Refusal Location :=
  if path = "" then .error .notFound
  else if !isUsable path then .error .unusable
  else (parts path).foldlM tree.enter (start cwd path)

/-- What stands where a path leads to. -/
def node (tree : Tree) (cwd : Location) (path : String) : Except Refusal Node := do
  match tree.get? (← tree.locate cwd path) with
  | some node => return node
  | none => throw .notFound

/-- Whether a path leads to a file. -/
def isFile (tree : Tree) (cwd : Location) (path : String) : Bool :=
  match tree.node cwd path with
  | .ok (.file _) => true
  | _ => false

/-- Whether a path leads to a directory. -/
def isDirectory (tree : Tree) (cwd : Location) (path : String) : Bool :=
  match tree.node cwd path with
  | .ok .directory => true
  | _ => false

/-- Whether a path leads to a file or a directory. -/
def isPresent (tree : Tree) (cwd : Location) (path : String) : Bool :=
  tree.isFile cwd path || tree.isDirectory cwd path

/-- The bytes of a file. -/
def readBytes (tree : Tree) (cwd : Location) (path : String) : Except Refusal ByteArray := do
  match ← tree.node cwd path with
  | .file bytes => return bytes
  | .directory => throw .isDirectory

/-- The text of a file. -/
def readText (tree : Tree) (cwd : Location) (path : String) : Except Refusal String := do
  match String.fromUTF8? (← tree.readBytes cwd path) with
  | some text => return text
  | none => throw .notText

/-- Write a file, in the place of what it has held. -/
def write (tree : Tree) (cwd : Location) (path : String) (bytes : ByteArray) :
    Except Refusal Tree := do
  let location ← tree.locate cwd path
  match tree.get? location with
  | some .directory => throw .isDirectory
  | _ => return tree.set location (.file bytes)

/-- Make the directories on the way along some parts. What was made stays when a later one is
refused. -/
def makeAlong (tree : Tree) (location : Location) : List String → Except Refusal Unit × Tree
  | [] => (.ok (), tree)
  | part :: parts =>
    match tree.enter location part with
    | .error refusal => (.error refusal, tree)
    | .ok next =>
      match tree.get? next with
      | some .directory => makeAlong tree next parts
      | some (.file _) => (.error .notDirectory, tree)
      | none => makeAlong (tree.set next .directory) next parts

/-- Make a directory and those above it, as far as they are missing. -/
def makeDirectories (tree : Tree) (cwd : Location) (path : String) :
    Except Refusal Unit × Tree :=
  if path = "" then (.ok (), tree)
  else if !isUsable path then (.error .unusable, tree)
  else tree.makeAlong (start cwd path) (parts path)

/-- Remove a file. -/
def removeFile (tree : Tree) (cwd : Location) (path : String) : Except Refusal Tree := do
  let location ← tree.locate cwd path
  match tree.get? location with
  | some (.file _) => return tree.erase location
  | some .directory => throw .isDirectory
  | none => throw .notFound

/-- Remove a directory with all that stands below it. A directory that the path does not call
by its name cannot itself be removed. -/
def removeDirectory (tree : Tree) (cwd : Location) (path : String) :
    Except Refusal Unit × Tree :=
  match tree.locate cwd path with
  | .error refusal => (.error refusal, tree)
  | .ok location =>
    match tree.get? location with
    | none => (.error .notFound, tree)
    | some (.file _) => (.error .notDirectory, tree)
    | some .directory =>
      if (lastName? path).isSome then (.ok (), tree.eraseFrom location)
      else (.error .unusable, tree.eraseIf fun other =>
        location.isPrefixOf other && location.length < other.length)

/-- The files below a location, as the names on the way to each of them. -/
def filesBelow (tree : Tree) (location : Location) : List (List String) :=
  ((tree.below location).filterMap fun (rest, node) =>
    if node.isFile then some rest else none).mergeSort locationLe

end Tree

end SnippetCheck.Files
