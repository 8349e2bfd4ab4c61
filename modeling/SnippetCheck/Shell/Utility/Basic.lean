import SnippetCheck.Shell.Format
import SnippetCheck.Shell.State

/-!
# Utilities

A utility is a function from its arguments and the state of the shell to a new state, whose
status tells how it ended. The utilities here only write their arguments.
-/

namespace SnippetCheck.Shell

open SnippetCheck.Files SnippetCheck.Text

/-- A program. -/
abbrev Utility := List String → State → State

namespace Utility

/-! ## Arguments -/

/-- Whether options hold a letter. -/
def hasOption (options : List String) (letter : Char) : Bool :=
  options.any fun option => option.contains letter

/-- The options at the front of arguments. -/
def optionsOf (args : List String) : List String :=
  args.takeWhile fun arg => arg.startsWith "-" && arg ≠ "-" && arg ≠ "--"

/-- The arguments behind the options. -/
def operandsOf (args : List String) : List String :=
  (args.drop (optionsOf args).length).dropWhile (· = "--")

/-! ## Files -/

/-- Why a file cannot be read, in words. -/
def describe : Refusal → String
  | .isDirectory => "Is a directory"
  | .notDirectory => "Not a directory"
  | _ => "No such file or directory"

/-- The file that holds nothing and keeps nothing. -/
def nowhere : String := "/dev/null"

/-- The bytes of a file, or of the input in the place of a dash. -/
def bytesAt (state : State) (path : String) : Except Refusal (List UInt8) :=
  if path = "-" then .ok state.input
  else if path = nowhere then .ok []
  else (state.files.readBytes state.cwd path).map ByteArray.toList

/-! ## Writing -/

/-- Write the arguments with their escapes, as the shell itself does. -/
def echo : Utility := fun args state =>
  let (newline, args) := match args with
    | "-n" :: args => (false, args)
    | args => (true, args)
  let (bytes, ends) := unescape true (" ".intercalate args).toList
  (state.write 1 (if newline && !ends then bytes ++ [10] else bytes)).withStatus 0

/-- Write the arguments as they are. -/
def plainEcho : Utility := fun args state =>
  let options := args.takeWhile fun arg => ["-n", "-e", "-E", "-ne", "-en"].contains arg
  let text := " ".intercalate (args.drop options.length)
  let escapes := options.any fun option => option.contains 'e'
  let (bytes, ends) := if escapes then unescape true text.toList else (bytesOf text, false)
  let newline := !ends && !options.any fun option => option.contains 'n'
  (state.write 1 (if newline then bytes ++ [10] else bytes)).withStatus 0

/-- Write a format filled with arguments. -/
def printf : Utility := fun args state =>
  match args with
  | format :: args =>
    let (bytes, ok) := formatted format args
    (state.write 1 bytes).withTruth ok
  | [] => (state.complain "sh: 1: printf: usage: printf format [arg ...]").withStatus 2

end Utility

end SnippetCheck.Shell
