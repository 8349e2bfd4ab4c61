import SnippetCheck.Text.Blank
import SnippetCheck.Text.Lines

/-!
# Indented Code

Code is built line by line at a current level of indentation. A line keeps no trailing
blanks, and a line that holds nothing else is left bare, so built code never ends a line in
a blank. `Step` writes a build down as data, to be run on any code.
-/

namespace SnippetCheck

open SnippetCheck.Text

/-- Code built so far. -/
structure Code where
  /-- Spaces per level of indentation. -/
  width : Nat := 4
  /-- The current level. -/
  level : Nat := 0
  /-- The lines so far, without their line ends. -/
  lines : List (List Char) := []
  deriving DecidableEq, Repr

namespace Code

/-- No code, at four spaces per level. -/
def empty : Code := {}

/-- The text of the code: every line followed by a line feed. -/
def text (code : Code) : List Char :=
  code.lines.flatMap fun line => line ++ ['\n']

/-- A line as it is written at a level: trimmed at the end, and indented unless nothing is
left of it. -/
def indented (columns : Nat) (line : List Char) : List Char :=
  let line := trimEnd line
  if line.isEmpty then [] else List.replicate columns ' ' ++ line

/-- Add a line at the current level. -/
def addLine (code : Code) (line : List Char) : Code :=
  { code with lines := code.lines ++ [indented (code.width * code.level) line] }

/-- Add every line of a text at the current level. -/
def addLines (code : Code) (text : List Char) : Code :=
  (splitLines text).foldl addLine code

/-- Add a bare line. -/
def addBlank (code : Code) : Code :=
  { code with lines := code.lines ++ [[]] }

/-- Go one level deeper. -/
def indent (code : Code) : Code :=
  { code with level := code.level + 1 }

/-- Go one level back, but never below the outermost. -/
def dedent (code : Code) : Code :=
  { code with level := code.level - 1 }

/-- Add a header line, then what `body` adds one level deeper, then a closing line. -/
def addBlock (code : Code) (header close : List Char) (body : Code → Code) : Code :=
  (body (code.addLine header).indent).dedent.addLine close

/-- The code as a string. -/
def toText (code : Code) : String :=
  String.ofList code.text

/-- The text of code with one more line. -/
@[simp]
theorem text_addLine (code : Code) (line : List Char) :
    (code.addLine line).text =
      code.text ++ (indented (code.width * code.level) line ++ ['\n']) := by
  simp [text, addLine]

/-- The text of code with a bare line added. -/
@[simp]
theorem text_addBlank (code : Code) : code.addBlank.text = code.text ++ ['\n'] := by
  simp [text, addBlank]

/-- Going deeper adds no text. -/
@[simp]
theorem text_indent (code : Code) : code.indent.text = code.text := rfl

/-- Going back adds no text. -/
@[simp]
theorem text_dedent (code : Code) : code.dedent.text = code.text := rfl

/-- One step of a build. -/
inductive Step where
  /-- Add a line. -/
  | line (text : List Char)
  /-- Add every line of a text. -/
  | lines (text : List Char)
  /-- Add a bare line. -/
  | blank
  /-- Go one level deeper. -/
  | indent
  /-- Go one level back. -/
  | dedent
  /-- Add a header, the steps one level deeper, and a closing line. -/
  | block (header close : List Char) (body : List Step)
  /-- Run the steps if the condition holds. -/
  | when (condition : Bool) (body : List Step)
  /-- Add a line for each item. -/
  | each (items : List (List Char))
  deriving Inhabited

mutual

/-- Run one step. -/
def runStep (code : Code) : Step → Code
  | .line text => code.addLine text
  | .lines text => code.addLines text
  | .blank => code.addBlank
  | .indent => code.indent
  | .dedent => code.dedent
  | .block header close body => (runSteps (code.addLine header).indent body).dedent.addLine close
  | .when condition body => if condition then runSteps code body else code
  | .each items => items.foldl addLine code

/-- Run steps in order. -/
def runSteps (code : Code) : List Step → Code
  | [] => code
  | step :: steps => runSteps (runStep code step) steps

end

/-- Run the steps that `body` has for each of several items, as one step. -/
def Step.forEach {α : Type} (items : List α) (body : α → List Step) : Step :=
  .when true (items.flatMap body)

/-- Steps that follow others are run on what those leave. -/
theorem runSteps_append (code : Code) (steps more : List Step) :
    runSteps code (steps ++ more) = runSteps (runSteps code steps) more := by
  induction steps generalizing code with
  | nil => rfl
  | cons step steps ih => exact ih (runStep code step)

/-- The items are gone through in order. -/
theorem runStep_forEach {α : Type} (code : Code) (items : List α) (body : α → List Step) :
    runStep code (.forEach items body) =
      items.foldl (fun code item => runSteps code (body item)) code := by
  rw [Step.forEach, runStep, if_pos rfl]
  induction items generalizing code with
  | nil => rfl
  | cons item items ih => rw [List.flatMap_cons, runSteps_append, ih, List.foldl_cons]

mutual

/-- The code after each step, those inside a step before the step itself; steps under a
condition that fails are not run. -/
def traceStep (code : Code) (step : Step) : List (Step × Code) :=
  let inner := match step with
    | .block header _ body => traceSteps (code.addLine header).indent body
    | .when condition body => if condition then traceSteps code body else []
    | _ => []
  inner ++ [(step, runStep code step)]

/-- The code after each of several steps run in order. -/
def traceSteps (code : Code) : List Step → List (Step × Code)
  | [] => []
  | step :: steps => traceStep code step ++ traceSteps (runStep code step) steps

end

end Code

end SnippetCheck
