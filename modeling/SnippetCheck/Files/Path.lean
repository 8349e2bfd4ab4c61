import SnippetCheck.Text.Lines

/-!
# Path Texts

A path is a text whose parts are separated by slashes. Operations keep the text as it was
written: joining appends, and taking a parent or removing a prefix cuts the text without
respelling what is left. Empty parts, and parts `.` other than a leading one, name no step.
-/

namespace SnippetCheck.Path

open SnippetCheck.Text

/-- One step of a path. -/
inductive Component where
  /-- A leading slash. -/
  | root
  /-- A leading `.`. -/
  | here
  /-- The part `..`. -/
  | up
  /-- Any other part. -/
  | name (text : List Char)
  deriving DecidableEq, Repr

/-- Whether a path starts at the root. -/
def isAbsolute (path : List Char) : Bool :=
  path.head? = some '/'

/-- Append a path to another. An absolute path replaces the left side, and an empty right
side leaves a slash at the end. -/
def joinChars (base path : List Char) : List Char :=
  if isAbsolute path then path
  else if base.isEmpty || base.getLast? = some '/' then base ++ path
  else base ++ '/' :: path

/-- Append a path to another. -/
def join (base path : String) : String :=
  String.ofList (joinChars base.toList path.toList)

/-- A part that names no step. -/
def isSilent (part : List Char) : Bool :=
  part.isEmpty || part = ['.']

/-- The step that a part names. -/
def component (part : List Char) : Component :=
  if part = ['.', '.'] then .up else .name part

/-- The leading slash or `.` of a path, if it has one, and the parts after it. -/
def split (path : List Char) : List Char × List (List Char) :=
  match path with
  | '/' :: rest => (['/'], splitAt '/' rest)
  | ['.'] => (['.'], [])
  | '.' :: '/' :: rest => (['.'], [] :: splitAt '/' rest)
  | _ => ([], splitAt '/' path)

/-- The step of a leading slash or `.`. -/
def leading (lead : List Char) : List Component :=
  if lead = ['/'] then [.root] else if lead = ['.'] then [.here] else []

/-- The steps of a path. -/
def components (path : List Char) : List Component :=
  let (lead, parts) := split path
  leading lead ++ (parts.filter fun part => !isSilent part).map component

/-- Remove the silent parts at the end. -/
def dropSilentEnd (parts : List (List Char)) : List (List Char) :=
  (parts.reverse.dropWhile isSilent).reverse

/-- The path without its last step; none for the root and the empty path. -/
def parentChars (path : List Char) : Option (List Char) :=
  let (lead, parts) := split path
  match (parts.reverse.dropWhile isSilent) with
  | _ :: before => some (lead ++ joinWith '/' (dropSilentEnd before.reverse))
  | [] => if lead = ['.'] then some [] else none

/-- The path without its last step; none for the root and the empty path. -/
def parent? (path : String) : Option String :=
  (parentChars path.toList).map String.ofList

/-- The last step of a path, when it is a name. -/
def fileNameChars (path : List Char) : Option (List Char) :=
  match ((split path).2.reverse.dropWhile isSilent) with
  | part :: _ => if part = ['.', '.'] then none else some part
  | [] => none

/-- The last step of a path, when it is a name. -/
def fileName? (path : String) : Option String :=
  (fileNameChars path.toList).map String.ofList

/-- What stands after the last dot of a name, unless that dot begins the name. -/
def extensionOfName (name : List Char) : Option (List Char) :=
  let after := name.reverse.takeWhile (· ≠ '.')
  match name.reverse.drop after.length with
  | _ :: _ :: _ => some after.reverse
  | _ => none

/-- The extension of the last step of a path. -/
def extension? (path : String) : Option String :=
  (fileNameChars path.toList).bind fun name => (extensionOfName name).map String.ofList

/-- Remove steps from the front of parts, as long as they are the given ones. -/
def dropSteps : List (List Char) → List Component → Option (List (List Char))
  | parts, [] => some parts
  | [], _ :: _ => none
  | part :: parts, step :: steps =>
    if isSilent part then dropSteps parts (step :: steps)
    else if component part = step then dropSteps parts steps
    else none

/-- The rest of a path after the steps of `base`, when it starts with them. -/
def stripPrefixChars (path base : List Char) : Option (List Char) :=
  let (lead, parts) := split path
  let tidy := fun parts => joinWith '/' (dropSilentEnd (parts.dropWhile isSilent))
  match leading lead, components base with
  | _, [] => some (lead ++ joinWith '/' (dropSilentEnd parts))
  | [], steps => (dropSteps parts steps).map tidy
  | first :: _, step :: steps =>
    if first = step then (dropSteps parts steps).map tidy else none

/-- The rest of a path after the steps of `base`, when it starts with them. -/
def stripPrefix? (path base : String) : Option String :=
  (stripPrefixChars path.toList base.toList).map String.ofList

/-- The path with every backslash written as a slash. -/
def normalize (path : String) : String :=
  path.map fun c => if c = '\\' then '/' else c

/-- An absolute path replaces what it is joined to. -/
theorem joinChars_of_isAbsolute {base path : List Char} (h : isAbsolute path = true) :
    joinChars base path = path := by
  simp [joinChars, h]

end SnippetCheck.Path
