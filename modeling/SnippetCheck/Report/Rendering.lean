/-!
# Renderings

A report is rendered as lines for the output and lines for the error output. Warnings go to
the error output, so that the output holds nothing but the report.
-/

namespace SnippetCheck.Report

/-- What is written for a report. -/
structure Rendering where
  /-- The lines of the output. -/
  output : List String := []
  /-- The lines of the error output. -/
  errors : List String := []
  deriving DecidableEq, Repr

/-- Lines as a text, in which each of them is ended. -/
def textOf (lines : List String) : String :=
  String.join (lines.map fun line => line.push '\n')

/-- The rule above and below a banner. -/
def rule : String :=
  "".pushn '=' 60

/-- A title between rules. -/
def banner (title : String) : List String :=
  [rule, title, rule]

/-- The heading of a section. -/
def heading (name : String) : String :=
  name.push ':'

/-- An item of a list. -/
def item (text : String) : String :=
  "  - " ++ text

/-- A warning. -/
def warning (text : String) : String :=
  "warning: " ++ text

/-- A count with a noun, which gets a plural where the count asks for one. -/
def counted (n : Nat) (noun : String) : String :=
  if n = 1 then s!"{n} {noun}" else s!"{n} {noun}s"

/-- The lines of one text after those of another. -/
@[simp]
theorem textOf_cons (line : String) (lines : List String) :
    textOf (line :: lines) = line.push '\n' ++ textOf lines := by
  simp [textOf]

end SnippetCheck.Report
