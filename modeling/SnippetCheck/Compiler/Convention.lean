import SnippetCheck.Compiler.Report
import SnippetCheck.Language

/-!
# Compiler Conventions

How the compiler of each language is found, called and read.
-/

namespace SnippetCheck.Compiler

/-- How a compiler is found, called and read. -/
structure Convention where
  /-- The program that is run when nothing else is configured. -/
  binary : String
  /-- The environment variable that names the compiler's home directory. -/
  homeVariable : String
  /-- The arguments between the classpath and the output directory. -/
  extraArgs : List String
  /-- How the compiler reports errors. -/
  reports : ReportShape

namespace Convention

/-- The convention of a language's compiler. -/
def of : Language → Convention
  | .java => {
      binary := "javac"
      homeVariable := "JAVA_HOME"
      extraArgs := ["-source", "8", "-target", "8", "-Xmaxerrs", "10000"]
      reports := { suffix := ".java".toList, column := false } }
  | .kotlin => {
      binary := "kotlinc"
      homeVariable := "KOTLIN_HOME"
      extraArgs := []
      reports := { suffix := ".kt".toList, column := true } }

/-- The arguments for compiling a source file into a directory against a classpath. -/
def args (convention : Convention) (classpath outDir source : String) : List String :=
  ["-cp", classpath] ++ convention.extraArgs ++ ["-d", outDir, source]

/-- The lines that describe the errors in a compiler's output about a unit. -/
def errors (convention : Convention) (unitFile : String) (output : List Char) : List String :=
  describeErrors unitFile output (Compiler.reports convention.reports output)

end Convention

end SnippetCheck.Compiler
