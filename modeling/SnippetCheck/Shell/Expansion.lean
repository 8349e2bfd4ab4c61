import SnippetCheck.Shell.Arithmetic
import SnippetCheck.Shell.Glob
import SnippetCheck.Shell.State

/-!
# Expanding Words

A word stands for a text or, as part of a command, for any number of fields. What comes from
parameters and from the output of scripts outside quotes is split into fields; what stands in
the script or between quotes is not. A field that is a glob stands for the paths of files, if
there are any.
-/

namespace SnippetCheck.Shell

open SnippetCheck.Files

/-- A part of an expanded word. -/
inductive Atom where
  /-- A character that belongs to a field. -/
  | char (c : Char) (quoted : Bool)
  /-- A character that may separate fields. -/
  | loose (c : Char)
  /-- Nothing, which makes a field all the same. -/
  | nothing
  /-- No argument, which makes no field. -/
  | noArgument
  /-- The end of a field. -/
  | cut
  deriving DecidableEq, Repr

/-- How the output of a script is found. -/
abbrev Substitution := List Char → State → State × String

/-- The parts of a value. -/
def atomsOf (value : String) (quoted : Bool) : List Atom :=
  value.toList.map fun c => if quoted then .char c true else .loose c

/-- The parts of the arguments, each a field of its own. -/
def argumentAtoms : List String → List Atom
  | [] => [.noArgument]
  | [arg] => .nothing :: atomsOf arg true
  | arg :: args => .nothing :: atomsOf arg true ++ .cut :: argumentAtoms args

/-- The characters of an expanded word. -/
def charsOf (atoms : List Atom) : List MarkedChar :=
  atoms.filterMap fun
    | .char c quoted => some (c, quoted)
    | .loose c => some (c, false)
    | _ => none

/-- The text of an expanded word. -/
def valueOf (atoms : List Atom) : String :=
  String.ofList ((charsOf atoms).map Prod.fst)

/-- Whether a value counts as given: it is set and, with a colon, not empty. -/
def isGiven (value : Option String) (colon : Bool) : Bool :=
  match value with
  | some value => !(colon && value.isEmpty)
  | none => false

mutual

/-- Expand a part of a word. -/
def expandPiece (substitute : Substitution) : Piece → StateM State (List Atom)
  | .char c quoted => return [.char c quoted]
  | .nothing => return [.nothing]
  | .parameter name quoted => do
    let state ← get
    -- `"$@"` is the one parameter that makes a field of each argument
    if name = "@" && quoted then return argumentAtoms state.args
    return atomsOf ((state.value? name).getD "") quoted
  | .length name quoted => do
    return atomsOf (toString (((← get).value? name).getD "").length) quoted
  | .trimmed name front longest pattern quoted => do
    let glob := globOf (charsOf (← expandPieces substitute pattern))
    let value := (((← get).value? name).getD "").toList
    let value := if front then dropFront longest glob value else dropBack longest glob value
    return atomsOf (String.ofList value) quoted
  | .orElse name colon assigns word quoted => do
    let value := (← get).value? name
    if isGiven value colon then return atomsOf (value.getD "") quoted
    let atoms ← expandPieces substitute word
    if assigns then modify fun state => state.assign name (valueOf atoms)
    return atoms
  | .andThen name colon word _ => do
    if isGiven ((← get).value? name) colon then expandPieces substitute word else return []
  | .arithmetic expression quoted => do
    let text := (charsOf (← expandPieces substitute expression)).map Prod.fst
    let state ← get
    match Arithmetic.value? state.value? text with
    | some value => return atomsOf (toString value) quoted
    | none =>
      let complaint := s!"sh: 1: arithmetic expression: {String.ofList text}"
      set ((state.complain complaint).withStatus 2)
      return []
  | .output script quoted => do
    let (state, output) := substitute script (← get)
    set state
    return atomsOf output quoted

/-- Expand the parts of a word. -/
def expandPieces (substitute : Substitution) : List Piece → StateM State (List Atom)
  | [] => return []
  | piece :: pieces => do
    let first ← expandPiece substitute piece
    return first ++ (← expandPieces substitute pieces)

end

/-- The text that a word stands for. -/
def textOf (substitute : Substitution) (word : Word) : StateM State String := do
  return valueOf (← expandPieces substitute word)

/-- The glob that a word stands for. -/
def globFor (substitute : Substitution) (word : Word) : StateM State (List GlobItem) := do
  return globOf (charsOf (← expandPieces substitute word))

/-- Fields and the one that is being read, if there is one. -/
structure Splitting where
  /-- The fields, the last one first. -/
  fields : List (List MarkedChar) := []
  /-- The characters of the field that is being read, the last one first. -/
  current : Option (List MarkedChar) := none

namespace Splitting

/-- End the field that is being read. -/
def finish (splitting : Splitting) : Splitting :=
  match splitting.current with
  | some chars => ⟨chars.reverse :: splitting.fields, none⟩
  | none => splitting

/-- Add a character to the field that is being read. -/
def add (splitting : Splitting) (c : MarkedChar) : Splitting :=
  { splitting with current := some (c :: splitting.current.getD []) }

/-- Read a part of an expanded word. A separator that is no space also ends an empty field. -/
def step (separators : List Char) (splitting : Splitting) : Atom → Splitting
  | .char c quoted => splitting.add (c, quoted)
  | .loose c =>
    if separators.contains c then
      if [' ', '\t', '\n'].contains c then splitting.finish
      else { splitting with current := some (splitting.current.getD []) }.finish
    else splitting.add (c, false)
  | .nothing => { splitting with current := some (splitting.current.getD []) }
  | .noArgument =>
    if splitting.current = some [] then { splitting with current := none } else splitting
  | .cut => splitting.finish

end Splitting

/-- The fields of an expanded word. -/
def fieldsOf (separators : List Char) (atoms : List Atom) : List (List MarkedChar) :=
  (atoms.foldl (Splitting.step separators) {}).finish.fields.reverse

/-- What a field stands for: the paths that it leads to as a glob, or the text that it is. -/
def State.pathsFor (state : State) (field : List MarkedChar) : List String :=
  let text := String.ofList (field.map Prod.fst)
  match globParts field with
  | [] => [text]
  | parts =>
    match pathsBelow state.files (start state.cwd text) "" parts with
    | [] => [text]
    | paths => paths

/-- The fields that words stand for. -/
def fieldsFor (substitute : Substitution) : List Word → StateM State (List String)
  | [] => return []
  | word :: words => do
    let atoms ← expandPieces substitute word
    let state ← get
    let fields := (fieldsOf state.separators atoms).flatMap state.pathsFor
    return fields ++ (← fieldsFor substitute words)

end SnippetCheck.Shell
