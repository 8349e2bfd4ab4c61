/-!
# Scripts

The parts of a shell script: words, whose text is known only when the script runs; commands
with their redirections; and the ways to put commands together.
-/

namespace SnippetCheck.Shell

/-- A part of a word. Quoted parts are not split into fields. -/
inductive Piece where
  /-- A character that stands in the script. -/
  | char (c : Char) (quoted : Bool)
  /-- Nothing, between quotes. -/
  | nothing
  /-- The value of a parameter. -/
  | parameter (name : String) (quoted : Bool)
  /-- The length of a parameter's value. -/
  | length (name : String) (quoted : Bool)
  /-- A parameter's value without what a pattern stands for in front or at the end. -/
  | trimmed (name : String) (front longest : Bool) (pattern : List Piece) (quoted : Bool)
  /-- A word in the place of a parameter's value that is not set or, with a colon, empty. The
  parameter may get that value. -/
  | orElse (name : String) (colon assigns : Bool) (word : List Piece) (quoted : Bool)
  /-- A word in the place of a parameter's value that is set and, with a colon, not empty. -/
  | andThen (name : String) (colon : Bool) (word : List Piece) (quoted : Bool)
  /-- The value of an arithmetic expression. -/
  | arithmetic (expression : List Piece) (quoted : Bool)
  /-- The output of a script. -/
  | output (script : List Char) (quoted : Bool)
  deriving Repr

/-- The character that a part is, if it is not quoted. -/
def plainChar? : Piece → Option Char
  | .char c false => some c
  | _ => none

/-- A word. -/
abbrev Word := List Piece

/-- The text of a word in which nothing is quoted and nothing is to be filled in. -/
def Word.plain? (word : Word) : Option String :=
  (word.mapM plainChar?).map String.ofList

/-- What becomes of a stream. -/
inductive RedirectionKind where
  /-- It is read from a file. -/
  | read
  /-- It is written to a file. -/
  | write
  /-- It is written to the end of a file. -/
  | append
  /-- It goes where another stream goes. -/
  | copy
  deriving DecidableEq, Repr

/-- A redirection of a stream. -/
structure Redirection where
  /-- The number of the stream. -/
  stream : Nat
  /-- What becomes of the stream. -/
  kind : RedirectionKind
  /-- The file, or the other stream. -/
  target : Word
  deriving Repr

/-- A script. -/
inductive Script where
  /-- Nothing. -/
  | skip
  /-- Assignments, or a command with assignments for it. -/
  | simple (assignments : List (String × Word)) (words : List Word)
  /-- A script with redirections. -/
  | redirected (body : Script) (redirections : List Redirection)
  /-- One script after another. -/
  | sequence (first second : Script)
  /-- The second script if the first succeeds. -/
  | both (first second : Script)
  /-- The second script if the first fails. -/
  | either (first second : Script)
  /-- A script that fails if another succeeds. -/
  | negated (body : Script)
  /-- The second script on the output of the first. -/
  | pipe (first second : Script)
  /-- One of two scripts. -/
  | branch (condition yes no : Script)
  /-- A script as long as a condition holds or, if that is asked for, does not hold. -/
  | loop (negated : Bool) (condition body : Script)
  /-- A script for each of some words, or for each argument. -/
  | forEach (name : String) (words : Option (List Word)) (body : Script)
  /-- The first script that has a pattern for a word. -/
  | select (word : Word) (cases : List (List Word × Script))
  /-- A script that leaves the state of the shell as it is. -/
  | subshell (body : Script)
  deriving Repr

end SnippetCheck.Shell
