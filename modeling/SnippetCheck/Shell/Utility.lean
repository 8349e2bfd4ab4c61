import SnippetCheck.Shell.Utility.Builtin
import SnippetCheck.Shell.Utility.Condition
import SnippetCheck.Shell.Utility.Filter
import SnippetCheck.Shell.Utility.Place
import SnippetCheck.Shell.Utility.Search

/-!
# The Names Of Utilities

Which utility a script calls by a name.
-/

namespace SnippetCheck.Shell.Utility

/-- The programs that can be launched by themselves. -/
def program? : String → Option Utility
  | "echo" => some plainEcho
  | "printf" => some printf
  | "true" => some fun _ state => state.withStatus 0
  | "false" => some fun _ state => state.withStatus 1
  | "sleep" => some fun _ state => state.withStatus 0
  | "cat" => some cat
  | "head" => some head
  | "tail" => some tail
  | "sort" => some sort
  | "wc" => some wc
  | "tr" => some tr
  | "grep" => some grep
  | "mkdir" => some mkdir
  | "touch" => some touch
  | "rm" => some rm
  | "cp" => some cp
  | "mv" => some mv
  | "ls" => some ls
  | "pwd" => some pwd
  | "basename" => some basename
  | "dirname" => some dirname
  | "test" => some test
  | "[" => some bracket
  | _ => none

/-- The utilities that the shell itself has. -/
def builtin? : String → Option Utility
  | ":" => some fun _ state => state.withStatus 0
  | "echo" => some echo
  | "read" => some read
  | "export" => some exportNames
  | "unset" => some unset
  | "set" => some setArgs
  | "shift" => some shift
  | "cd" => some cd
  | _ => none

/-- What a script calls by a name. -/
def find? (name : String) : Option Utility :=
  (builtin? name).orElse fun () => program? name

end SnippetCheck.Shell.Utility
