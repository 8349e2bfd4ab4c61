import SnippetCheck.Workspace

/-!
# Compiler Errors

What keeps units from being compiled at all. What a compiler finds wrong with a unit is no
error here; it is the result for that unit.
-/

namespace SnippetCheck.Compiler

/-- Why units could not be compiled. -/
inductive CompileError where
  /-- The classpath command could not be launched. -/
  | classpathLaunch (command : String)
  /-- The classpath command failed. -/
  | classpathCommand (command : String) (status : ExitStatus) (errors : String)
  /-- The file that the classpath command should have written cannot be read. -/
  | classpathOutput (path : String)
  /-- No classpath entry is left. -/
  | emptyClasspath
  /-- The source of the base type is missing. -/
  | missingBase (path : String)
  /-- The base type does not compile. -/
  | baseType (path : String) (errors : List String)
  /-- The compiler could not be launched. -/
  | launch (command : String)
  /-- The directory for compiled classes could not be made. -/
  | notPrepared (path : String)
  deriving DecidableEq, Repr

/-- The message of an error. -/
def CompileError.message : CompileError → String
  | .classpathLaunch command => s!"failed to run classpath command `{command}`"
  | .classpathCommand command status errors =>
    s!"classpath command `{command}` exited with {status.describe}\n{errors}"
  | .classpathOutput path => s!"failed to read classpath from '{path}'"
  | .emptyClasspath => "the resolved classpath is empty"
  | .missingBase path => s!"validation base type not found at '{path}'"
  | .baseType path errors =>
    let lines := "\n".intercalate errors
    s!"validation base type '{path}' failed to compile:\n{lines}"
  | .launch command => s!"failed to launch compiler `{command}`"
  | .notPrepared path => s!"failed to prepare '{path}'"

end SnippetCheck.Compiler
