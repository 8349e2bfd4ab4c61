import SnippetCheck.Text.Lines

/-!
# Relocated Declarations

Some declarations cannot stand inside a method. Each starts a block of lines that runs until
its braces are balanced; the blocks are lifted out and the other lines remain. Braces are
counted wherever they stand, in literals and comments too. No line is lost on the way: a block
and the lines after it are the lines it was taken from (`takeBlock_append`).
-/

namespace SnippetCheck.Source

/-- Where a lifted block goes. -/
inductive Scope where
  /-- In front of the generated type. -/
  | file
  /-- Inside the generated type, in front of its method. -/
  | type
  deriving DecidableEq, Repr

/-- A body split into lifted blocks and remaining lines, each in their order. -/
structure Relocated where
  /-- Blocks for the file scope. -/
  fileScope : List (List (List Char)) := []
  /-- Blocks for the type scope. -/
  typeScope : List (List (List Char)) := []
  /-- Lines outside all blocks. -/
  remaining : List (List Char) := []
  deriving DecidableEq, Repr

namespace Relocated

/-- Put a block in front. -/
def addBlock (scope : Scope) (block : List (List Char)) (split : Relocated) : Relocated :=
  match scope with
  | .file => { split with fileScope := block :: split.fileScope }
  | .type => { split with typeScope := block :: split.typeScope }

/-- Put a remaining line in front. -/
def addLine (line : List Char) (split : Relocated) : Relocated :=
  { split with remaining := line :: split.remaining }

end Relocated

/-- How much deeper the braces of a line lead. -/
def braceDelta : List Char → Int
  | [] => 0
  | c :: line => (if c = '{' then 1 else if c = '}' then -1 else 0) + braceDelta line

/-- The lines that a block at the given depth still takes, and the lines after it. The block
ends as soon as the depth is zero or below. -/
def takeBlock (depth : Int) : List (List Char) → List (List Char) × List (List Char)
  | [] => ([], [])
  | line :: lines =>
    if 0 < depth then
      let (block, rest) := takeBlock (depth + braceDelta line) lines
      (line :: block, rest)
    else ([], line :: lines)

/-- A block takes lines from the front. -/
theorem takeBlock_append (depth : Int) (lines : List (List Char)) :
    (takeBlock depth lines).1 ++ (takeBlock depth lines).2 = lines := by
  fun_induction takeBlock depth lines <;> simp_all

/-- A block is not longer than the lines that it is taken from. -/
theorem length_takeBlock_le (depth : Int) (lines : List (List Char)) :
    (takeBlock depth lines).2.length ≤ lines.length := by
  have h := congrArg List.length (takeBlock_append depth lines)
  rw [List.length_append] at h
  omega

/-- Lift the blocks that start at the lines to which `classify` gives a scope. -/
def relocate (classify : List Char → Option Scope) : List (List Char) → Relocated
  | [] => {}
  | line :: lines =>
    match classify line with
    | some scope =>
      let taken := takeBlock (braceDelta line) lines
      have := length_takeBlock_le (braceDelta line) lines
      (relocate classify taken.2).addBlock scope (line :: taken.1)
    | none => (relocate classify lines).addLine line
termination_by lines => lines.length
decreasing_by
  · simp only [List.length_cons]
    omega
  · simp

end SnippetCheck.Source
