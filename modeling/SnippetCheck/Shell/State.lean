import SnippetCheck.Files.Access
import SnippetCheck.Text.Decimal
import SnippetCheck.Text.Utf8

/-!
# Shell States

What a script works on: files, parameters, the input that is left, and what has been written
to the streams so far. Stream 1 is the output and stream 2 the error output.
-/

namespace SnippetCheck.Shell

open SnippetCheck.Files SnippetCheck.Text

/-- The state of a shell. -/
structure State where
  /-- The files. -/
  files : Tree
  /-- The working directory. -/
  cwd : Location
  /-- What the shell calls itself. -/
  name : String := "sh"
  /-- The arguments. -/
  args : List String := []
  /-- The variables that are set, with their values. -/
  bindings : List (String × String) := []
  /-- The names of the variables that other shells see. -/
  exported : List String := []
  /-- Whether the shell ends when a command fails. -/
  strict : Bool := false
  /-- The exit status of the last command. -/
  status : Nat := 0
  /-- The input that is left. -/
  input : List UInt8 := []
  /-- What was written, with the number of its stream, the last piece first. -/
  log : List (Nat × List UInt8) := []

namespace State

/-- Write bytes to a stream. -/
def write (state : State) (stream : Nat) (bytes : List UInt8) : State :=
  { state with log := (stream, bytes) :: state.log }

/-- Write a text to the output. -/
def print (state : State) (text : String) : State :=
  state.write 1 (bytesOf text)

/-- Write a line to the error output. -/
def complain (state : State) (text : String) : State :=
  state.write 2 (bytesOf (text.push '\n'))

/-- End a command with a status. -/
def withStatus (state : State) (status : Nat) : State :=
  { state with status }

/-- End a command with what a condition is worth as a status. -/
def withTruth (state : State) (condition : Bool) : State :=
  state.withStatus (if condition then 0 else 1)

/-- All that was written to a stream. -/
def written (state : State) (stream : Nat) : List UInt8 :=
  state.log.reverse.flatMap fun (other, bytes) => if other = stream then bytes else []

/-- Set a variable. -/
def assign (state : State) (name value : String) : State :=
  { state with
    bindings := (name, value) :: state.bindings.filter fun entry => entry.1 ≠ name }

/-- The characters that separate fields. -/
def separators (state : State) : List Char :=
  ((state.bindings.lookup "IFS").getD " \t\n").toList

/-- What stands between the arguments where they make up one value. -/
def mark (state : State) : String :=
  String.ofList (state.separators.take 1)

/-- Let other shells see a variable. -/
def expose (state : State) (name : String) : State :=
  { state with exported := name :: state.exported }

/-- The variables that a shell gets from the one that starts it. -/
def inherited (state : State) : List (String × String) :=
  state.bindings.filter fun entry => state.exported.contains entry.1

/-- The path of the working directory. -/
def directory (state : State) : String :=
  "/" ++ "/".intercalate state.cwd

/-- The value of a parameter, if it is set. -/
def value? (state : State) (name : String) : Option String :=
  match name with
  | "@" | "*" => if state.args.isEmpty then none else some (state.mark.intercalate state.args)
  | "#" => some (toString state.args.length)
  | "?" => some (toString state.status)
  | "$" => some "1"
  | "-" => some ""
  | "0" => some state.name
  | name =>
    match name.toNat? with
    | some n => state.args[n - 1]?
    | none =>
      (state.bindings.lookup name).orElse fun () =>
        if name = "PWD" then some state.directory else none

end State

end SnippetCheck.Shell
