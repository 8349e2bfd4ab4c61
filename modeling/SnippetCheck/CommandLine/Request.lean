import SnippetCheck.Language

/-!
# Requests

What a command line can ask for, and why one asks for nothing.
-/

namespace SnippetCheck.CommandLine

/-- How much is logged. -/
inductive Verbosity where
  /-- Warnings and errors. -/
  | quiet
  /-- What happens in outline. -/
  | normal
  /-- Every step. -/
  | verbose
  deriving DecidableEq, Repr

namespace Verbosity

/-- The verbosity that two switches select; where both are on, the verbose one counts. -/
def ofSwitches (verbose quiet : Bool) : Verbosity :=
  if verbose then .verbose else if quiet then .quiet else .normal

/-- The directive for the log. -/
def directive : Verbosity → String
  | .quiet => "warn"
  | .normal => "info"
  | .verbose => "debug"

end Verbosity

/-- The shells that completions can be made for. -/
inductive CompletionShell where
  | bash
  | elvish
  | fish
  | powershell
  | zsh
  deriving DecidableEq, Repr

namespace CompletionShell

/-- The word for a shell. -/
def word : CompletionShell → String
  | .bash => "bash"
  | .elvish => "elvish"
  | .fish => "fish"
  | .powershell => "powershell"
  | .zsh => "zsh"

/-- All shells. -/
def all : List CompletionShell := [.bash, .elvish, .fish, .powershell, .zsh]

/-- The shell that a word names. -/
def ofWord? (word : String) : Option CompletionShell :=
  all.find? fun shell => shell.word = word

end CompletionShell

/-- What is to be done. -/
inductive Job where
  /-- Compile the snippets of a language. -/
  | validate (language : Language) (cleanCache capture : Bool) (version : Option String)
      (jobs : Option Nat)
  /-- List the snippets of a language. -/
  | list (language : Language) (json : Bool)
  /-- Remove what validations of a language have left. -/
  | clean (language : Language)
  /-- Write completions for a shell. -/
  | completions (shell : CompletionShell)
  deriving DecidableEq, Repr

/-- What a command line asks for. -/
structure Request where
  /-- The path of the manifest. -/
  config : String
  /-- How much is logged. -/
  verbosity : Verbosity
  /-- What is to be done. -/
  job : Job
  deriving DecidableEq, Repr

/-- Why a command line asks for nothing to be done. -/
inductive Usage where
  /-- It asks for help. -/
  | help
  /-- It asks for the version. -/
  | version
  /-- It is empty. -/
  | empty
  /-- It names no command. -/
  | missingCommand
  /-- It names a command that there is not. -/
  | unknownCommand
  /-- It has an argument that means nothing. -/
  | unknownArgument
  /-- It has no value for an option, or one that is not among the possible values. -/
  | badValue
  /-- It has a value that cannot be read. -/
  | unreadableValue
  /-- It has a value for a switch. -/
  | valueForSwitch
  /-- It repeats an argument, or has two that exclude each other. -/
  | conflict
  /-- It lacks an argument. -/
  | missingArgument
  deriving DecidableEq, Repr

namespace Usage

/-- The exit code. Help and the version are what was asked for; all else is a mistake. -/
def exitCode : Usage → Nat
  | .help | .version => 0
  | _ => 2

/-- What is said about a mistake. -/
def message : Usage → String
  | .help | .version | .empty => ""
  | .missingCommand => "error: a command is required"
  | .unknownCommand => "error: there is no such command"
  | .unknownArgument => "error: unexpected argument"
  | .badValue => "error: a value is missing or not possible"
  | .unreadableValue => "error: invalid value"
  | .valueForSwitch => "error: unexpected value"
  | .conflict => "error: an argument cannot be used there or more than once"
  | .missingArgument => "error: a required argument is missing"

end Usage

end SnippetCheck.CommandLine
