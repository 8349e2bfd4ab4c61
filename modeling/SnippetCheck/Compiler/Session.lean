import SnippetCheck.Compiler.Classpath
import SnippetCheck.Compiler.Toolchain
import SnippetCheck.Files.Change
import SnippetCheck.SourceUnit

/-!
# Compiling Units

A session compiles the base type and then every pending unit, each in a process of its own.
All classes go into one directory, which is also the last entry of the classpath of every
unit. A session without pending units does nothing at all.
-/

namespace SnippetCheck.Compiler

open SnippetCheck.Text

/-- What a session compiles with. -/
structure Session where
  /-- How the compiler is called and read. -/
  convention : Convention
  /-- The compiler. -/
  toolchain : Toolchain
  /-- Where the classpath comes from. -/
  classpath : Classpath
  /-- The source of the base type. -/
  baseSource : String
  /-- The directory of generated sources. -/
  generatedDir : String
  /-- The directory of compiled classes. -/
  classesDir : String
  /-- How many processes may run at once, if that is limited. The results do not depend on it. -/
  jobs : Option Nat := none

/-- The lines that describe what a compiler process that has ended found wrong. A process that
fails without a word is an error too. -/
def resultOf (convention : Convention) (fileName : String) (finished : Finished) :
    List String :=
  if finished.status.isSuccess then []
  else
    let text := readBytes finished.output ++ readBytes finished.errors
    match convention.errors fileName text with
    | [] => [s!"  compiler exited with {finished.status.describe}"]
    | errors => errors

namespace Session

/-- How many processes run at once for some pending units: no more than there are processors,
units and allowed processes, but one at least. -/
def workerCount (session : Session) (processors pending : Nat) : Nat :=
  max 1 (min (min processors pending) (session.jobs.getD pending))

/-- The command that compiles a source file against a classpath. -/
def command (session : Session) (classpath source : String) : Command :=
  session.toolchain.command (session.convention.args classpath session.classesDir source)

/-- Compile a source file against a classpath. -/
def compileFile (session : Session) (machine : Machine)
    (classpath source fileName : String) : Action CompileError (List String) := do
  match ← Action.launch machine (session.command classpath source) with
  | none => throw (.launch session.toolchain.describe)
  | some finished => return resultOf session.convention fileName finished

/-- Compile the base type. -/
def compileBase (session : Session) (machine : Machine) (classpath : String) :
    Action CompileError Unit := do
  let source := session.baseSource
  if (← get).isFile source then
    match ← session.compileFile machine classpath source ((Path.fileName? source).getD "") with
    | [] => return ()
    | errors => throw (.baseType source errors)
  else throw (.missingBase source)

/-- The classpath of a unit. -/
def unitClasspath (session : Session) (classpath : String) : String :=
  classpath.push separator ++ session.classesDir

/-- Compile a unit. -/
def compileUnit (session : Session) (machine : Machine) (classpath : String)
    (sourceUnit : SourceUnit) : Action CompileError (List String) :=
  session.compileFile machine (session.unitClasspath classpath)
    (sourceUnit.pathIn session.generatedDir) sourceUnit.fileName

/-- Compile several units, and give what was found by the name of the class. -/
def compileUnits (session : Session) (machine : Machine) (classpath : String) :
    List SourceUnit → Action CompileError (List (String × List String))
  | [] => return []
  | sourceUnit :: units => do
    let errors ← session.compileUnit machine classpath sourceUnit
    return (sourceUnit.className, errors) :: (← session.compileUnits machine classpath units)

/-- Compile the pending units for an SDK version. -/
def compile (session : Session) (machine : Machine) (version : SdkVersion)
    (pending : List SourceUnit) : Action CompileError (List (String × List String)) :=
  match pending with
  | [] => return []
  | units => do
    let classpath ← session.classpath.resolve machine version
    Action.makeDirectories session.classesDir (.notPrepared session.classesDir)
    session.compileBase machine classpath
    session.compileUnits machine classpath units

/-- Without pending units, nothing is launched and nothing changes. -/
@[simp]
theorem compile_nil (session : Session) (machine : Machine) (version : SdkVersion) :
    session.compile machine version [] = pure [] := rfl

end Session

end SnippetCheck.Compiler
