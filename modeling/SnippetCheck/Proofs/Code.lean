import SnippetCheck.Code
import SnippetCheck.Proofs.Text.Lines

/-!
# The Lines Of Built Code

Every way to add to code puts lines behind those that it has (`append`). What the lines are
depends on the code only by the column where its level starts. So a build reads as the list
of its lines, and unless a line feed stands inside one of them, the text of the code is split
into the same lines (`splitLines_text`).
-/

namespace SnippetCheck.Code

open SnippetCheck.Text

/-- The column where the lines of the current level start. -/
def columns (code : Code) : Nat :=
  code.width * code.level

/-- Code with further lines, taken as they are. -/
def append (code : Code) (lines : List (List Char)) : Code :=
  { code with lines := code.lines ++ lines }

variable {code : Code} {line : List Char} {lines more : List (List Char)}

@[simp]
theorem lines_append : (code.append lines).lines = code.lines ++ lines := rfl

@[simp]
theorem columns_append : (code.append lines).columns = code.columns := rfl

@[simp]
theorem append_append : (code.append lines).append more = code.append (lines ++ more) := by
  simp [append, List.append_assoc]

@[simp]
theorem append_nil : code.append [] = code := by
  simp [append]

/-- A line is indented to the column of the level. -/
theorem addLine_eq_append : code.addLine line = code.append [indented code.columns line] := rfl

/-- A blank is a bare line. -/
theorem addBlank_eq_append : code.addBlank = code.append [[]] := rfl

/-- Lines that are added one by one are all indented to the same column. -/
theorem foldl_addLine_eq_append (code : Code) (lines : List (List Char)) :
    lines.foldl addLine code = code.append (lines.map (indented code.columns)) := by
  induction lines generalizing code with
  | nil => simp
  | cons line lines ih =>
    rw [List.foldl_cons, ih, addLine_eq_append, append_append, columns_append]
    rfl

/-- The lines of a text are all indented to the same column. -/
theorem addLines_eq_append (code : Code) (text : List Char) :
    code.addLines text = code.append ((splitLines text).map (indented code.columns)) :=
  foldl_addLine_eq_append code (splitLines text)

/-- A block that adds lines to any code of its level puts them between its two end lines. -/
theorem addBlock_eq_append {header close : List Char} {body : Code → Code}
    (hbody : body (code.addLine header).indent = (code.addLine header).indent.append lines) :
    code.addBlock header close body =
      code.append (indented code.columns header :: (lines ++ [indented code.columns close])) := by
  rw [addBlock, hbody]
  -- the level behind the block is the one in front of it
  have hback : ((code.addLine header).indent.append lines).dedent =
      code.append (indented code.columns header :: lines) := by
    simp [dedent, indent, addLine, append, columns]
  rw [hback, addLine_eq_append, append_append, columns_append, List.cons_append]

/-- Going a level deeper moves the lines by the width of a level. -/
theorem columns_indent : code.indent.columns = code.columns + code.width := by
  simp [columns, indent, Nat.mul_succ]

/-- A line is on one line after it is indented. -/
theorem newline_not_mem_indented {columns : Nat} (h : '\n' ∉ line) :
    '\n' ∉ indented columns line := by
  obtain ⟨blanks, hline, -⟩ := exists_eq_trimEnd_append line
  have htrim : '\n' ∉ trimEnd line := fun hmem =>
    h (hline ▸ List.mem_append_left blanks hmem)
  rw [indented]
  split
  · simp
  · simp [List.mem_append, htrim]

/-- A text whose lines are each ended by a line feed is split into its lines, with an empty
one behind them. -/
theorem splitLines_text (h : ∀ line ∈ code.lines, '\n' ∉ line) :
    splitLines code.text = code.lines ++ [[]] := by
  obtain ⟨width, level, lines⟩ := code
  simp only [text]
  induction lines with
  | nil => rfl
  | cons line lines ih =>
    obtain ⟨hline, hlines⟩ := List.forall_mem_cons.1 h
    rw [List.flatMap_cons, List.append_assoc, List.singleton_append, splitLines,
      splitAt_append_cons, splitAt_of_not_mem hline, ← splitLines, ih hlines]
    rfl

end SnippetCheck.Code
