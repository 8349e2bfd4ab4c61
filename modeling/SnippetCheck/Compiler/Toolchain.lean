import SnippetCheck.Compiler.Convention
import SnippetCheck.Workspace

/-!
# Toolchains

A toolchain is the command that compiles: a program and the arguments that always come
first.
-/

namespace SnippetCheck.Compiler

/-- The command that compiles. -/
structure Toolchain where
  /-- The program. -/
  program : String
  /-- The arguments that always come first. -/
  args : List String := []
  deriving DecidableEq, Repr

namespace Toolchain

/-- The toolchain of a command line, which has to name a program. -/
def ofCommand? : List String → Option Toolchain
  | [] => none
  | program :: args => some ⟨program, args⟩

/-- The compiler below a home directory, if a file or a directory stands there. -/
def inHome? (convention : Convention) (workspace : Workspace) (home : String) :
    Option Toolchain :=
  let program := Path.join (Path.join home "bin") convention.binary
  if workspace.isPresent program then some ⟨program, []⟩ else none

/-- The toolchain to use: the configured command; else the compiler in the home directory that
the environment names; else the compiler's program, to be searched for by its name. -/
def discover (convention : Convention) (configured : Option (List String))
    (environment : String → Option String) (workspace : Workspace) : Toolchain :=
  ((configured.bind ofCommand?).orElse fun () =>
    (environment convention.homeVariable).bind (inHome? convention workspace)).getD
      ⟨convention.binary, []⟩

/-- The command line. -/
def describe (toolchain : Toolchain) : String :=
  " ".intercalate (toolchain.program :: toolchain.args)

/-- The command with further arguments. -/
def command (toolchain : Toolchain) (args : List String) : Command :=
  { program := toolchain.program, args := toolchain.args ++ args }

end Toolchain

end SnippetCheck.Compiler
