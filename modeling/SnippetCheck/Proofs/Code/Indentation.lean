import Mathlib.Data.List.Infix
import SnippetCheck.Proofs.Code

/-!
# Uniform Indentation

A build of nested steps is a sequence of acts, each of which adds one line or changes the level
(`runSteps_eq_foldl`). An act does the same whatever lines stand in front (`perform_after`), and
on code that is a level deeper it does the same a level deeper (`perform_deepen`), unless it goes
back from the outermost level. So steps that never go back from the level where they start add,
one level deeper, the same text with the spaces of one level in front of every line that is not
empty (`indents_uniformly`).
-/

namespace SnippetCheck.Code

open SnippetCheck.Text

/-! ## Acts -/

/-- The least that a build does at a time. -/
inductive Act where
  /-- Add a line. -/
  | line (text : List Char)
  /-- Add a bare line. -/
  | blank
  /-- Go one level deeper. -/
  | indent
  /-- Go one level back. -/
  | dedent
  deriving DecidableEq

/-- Do one act. -/
def perform (code : Code) : Act → Code
  | .line text => code.addLine text
  | .blank => code.addBlank
  | .indent => code.indent
  | .dedent => code.dedent

mutual

/-- The acts of a step, in order. -/
def Step.acts : Step → List Act
  | .line text => [.line text]
  | .lines text => (splitLines text).map .line
  | .blank => [.blank]
  | .indent => [.indent]
  | .dedent => [.dedent]
  | .block header close body => .line header :: .indent :: (actsOf body ++ [.dedent, .line close])
  | .when condition body => if condition then actsOf body else []
  | .each items => items.map .line

/-- The acts of several steps, in order. -/
def actsOf : List Step → List Act
  | [] => []
  | step :: steps => step.acts ++ actsOf steps

end

mutual

/-- The texts that a step adds as single lines; steps under a condition that fails add none. -/
def Step.singles : Step → List (List Char)
  | .line text => [text]
  | .block header close body => header :: close :: singlesOf body
  | .when condition body => if condition then singlesOf body else []
  | .each items => items
  | .lines _ | .blank | .indent | .dedent => []

/-- The texts that several steps add as single lines. -/
def singlesOf : List Step → List (List Char)
  | [] => []
  | step :: steps => step.singles ++ singlesOf steps

end

/-- Steps never go back from the level where they start: up to any point, they have gone back at
most as often as they have gone deeper. What counts are the steps that are taken, so that one from
the outermost level counts although it leads nowhere. -/
def NeverBelowStart (steps : List Step) : Prop :=
  ∀ before, before <+: actsOf steps → before.count .dedent ≤ before.count .indent

mutual

/-- Running a step is doing its acts. -/
theorem runStep_eq_foldl (code : Code) :
    (step : Step) → runStep code step = step.acts.foldl perform code
  | .line _ => rfl
  | .lines text => by
    rw [runStep, Step.acts, List.foldl_map]
    rfl
  | .blank | .indent | .dedent => rfl
  | .block header close body => by
    rw [runStep, runSteps_eq_foldl _ body, Step.acts, List.foldl_cons, List.foldl_cons,
      List.foldl_append]
    rfl
  | .when condition body => by
    rw [runStep, runSteps_eq_foldl code body, Step.acts]
    -- without the condition, nothing is run and there are no acts
    cases condition <;> rfl
  | .each items => by
    rw [runStep, Step.acts, List.foldl_map]
    rfl

/-- Running steps is doing their acts. -/
theorem runSteps_eq_foldl (code : Code) :
    (steps : List Step) → runSteps code steps = (actsOf steps).foldl perform code
  | [] => rfl
  | step :: steps => by
    rw [runSteps, runStep_eq_foldl code step, runSteps_eq_foldl _ steps, actsOf,
      List.foldl_append]

end

mutual

/-- A text with a line feed in it is a line of an act only if the step was given it as a single
line. -/
theorem Step.mem_singles_of_newline_mem {text : List Char} (hfeed : '\n' ∈ text) :
    (step : Step) → Act.line text ∈ step.acts → text ∈ step.singles
  | .line other, h => by simpa [Step.acts, Step.singles] using h
  | .lines other, h => by
    -- the lines of a text are split at line feeds
    obtain ⟨part, hpart, rfl⟩ : ∃ part ∈ splitLines other, part = text := by
      simpa [Step.acts] using h
    exact absurd hfeed (sep_not_mem_of_mem_splitAt hpart)
  | .blank, h | .indent, h | .dedent, h => by simp [Step.acts] at h
  | .block header close body, h => by
    have h : text = header ∨ Act.line text ∈ actsOf body ∨ text = close := by
      simpa [Step.acts] using h
    rcases h with rfl | hbody | rfl
    · simp [Step.singles]
    · simp [Step.singles, mem_singlesOf_of_newline_mem hfeed body hbody]
    · simp [Step.singles]
  | .when condition body, h => by
    cases condition with
    | true => exact mem_singlesOf_of_newline_mem hfeed body h
    | false => simp [Step.acts] at h
  | .each items, h => by simpa [Step.acts, Step.singles] using h

/-- A text with a line feed in it is a line of an act only if one of the steps was given it as a
single line. -/
theorem mem_singlesOf_of_newline_mem {text : List Char} (hfeed : '\n' ∈ text) :
    (steps : List Step) → Act.line text ∈ actsOf steps → text ∈ singlesOf steps
  | [], h => by simp [actsOf] at h
  | step :: steps, h => by
    rw [actsOf, List.mem_append] at h
    rw [singlesOf, List.mem_append]
    exact h.imp (Step.mem_singles_of_newline_mem hfeed step)
      (mem_singlesOf_of_newline_mem hfeed steps)

end

variable {code : Code} {act : Act} {acts : List Act} {line : List Char}

/-! ## Text is only added -/

/-- An act keeps the text that there is. -/
theorem text_prefix_perform (code : Code) (act : Act) : code.text <+: (perform code act).text := by
  cases act with
  | line text => exact ⟨_, (text_addLine code text).symm⟩
  | blank => exact ⟨_, (text_addBlank code).symm⟩
  | indent => exact List.prefix_rfl
  | dedent => exact List.prefix_rfl

/-- Acts keep the text that there is. -/
theorem text_prefix_foldl (code : Code) (acts : List Act) :
    code.text <+: (acts.foldl perform code).text := by
  induction acts generalizing code with
  | nil => exact List.prefix_rfl
  | cons act acts ih => exact (text_prefix_perform code act).trans (ih (perform code act))

/-- A step keeps the text that there is. -/
theorem text_prefix_runStep (code : Code) (step : Step) :
    code.text <+: (runStep code step).text := by
  rw [runStep_eq_foldl]
  exact text_prefix_foldl code step.acts

/-- Texts that grow from a first one to a last one: each extends those before it. -/
def Grow (first : List Char) (texts : List (List Char)) (last : List Char) : Prop :=
  (first :: (texts ++ [last])).Pairwise (· <+: ·)

namespace Grow

variable {first middle last : List Char} {texts more : List (List Char)}

/-- Texts that grow may grow on. -/
theorem append (h : Grow first texts middle) (hmore : Grow middle more last) :
    Grow first (texts ++ more) last := by
  rw [Grow, ← List.cons_append] at h
  obtain ⟨htexts, -, hmiddle⟩ := List.pairwise_append.1 h
  obtain ⟨hextends, hmore⟩ := List.pairwise_cons.1 hmore
  rw [Grow, List.append_assoc, ← List.cons_append]
  -- a text from before `middle` and one from behind it are compared through `middle`
  refine List.pairwise_append.2 ⟨htexts, hmore, fun text htext other hother => ?_⟩
  exact (hmiddle text htext middle (List.mem_singleton_self _)).trans (hextends other hother)

/-- No texts grow between a text and one that extends it. -/
theorem nil (h : first <+: last) : Grow first [] last := by
  simpa [Grow] using h

/-- The last text may stand among those that grow. -/
theorem concat (h : Grow first texts last) : Grow first (texts ++ [last]) last :=
  h.append (by simp [Grow])

end Grow

mutual

/-- The texts after the steps inside a step, and then after the step itself, grow. -/
theorem grow_traceStep (code : Code) : (step : Step) →
    Grow code.text ((traceStep code step).map fun entry => entry.2.text) (runStep code step).text
  | .block header close body => by
    -- the steps inside start from the header, and the closing line is added to what they leave
    have hheader : Grow code.text [] (code.addLine header).indent.text :=
      .nil (text_prefix_perform code (.line header))
    have hclose : Grow (runSteps (code.addLine header).indent body).text []
        (runStep code (.block header close body)).text := by
      rw [runStep]
      exact .nil (text_prefix_perform (runSteps _ body).dedent (.line close))
    have h := ((hheader.append (grow_traceSteps _ body)).append hclose).concat
    simpa [traceStep] using h
  | .when condition body => by
    cases condition with
    | true => simpa [traceStep, runStep] using (grow_traceSteps code body).concat
    | false => simpa [traceStep, runStep] using (Grow.nil List.prefix_rfl).concat
  | .line _ | .lines _ | .blank | .indent | .dedent | .each _ =>
    -- no step stands inside
    (Grow.nil (text_prefix_runStep code _)).concat

/-- The texts after each of several steps grow. -/
theorem grow_traceSteps (code : Code) : (steps : List Step) →
    Grow code.text ((traceSteps code steps).map fun entry => entry.2.text)
      (runSteps code steps).text
  | [] => .nil List.prefix_rfl
  | step :: steps => by
    rw [traceSteps, List.map_append, runSteps]
    exact (grow_traceStep code step).append (grow_traceSteps _ steps)

end

/-! ## Tidy lines -/

/-- A line of which nothing is left to trim. -/
structure TidyLine (line : List Char) : Prop where
  /-- It is one line. -/
  newline_not_mem : '\n' ∉ line
  /-- It does not end in a blank. -/
  not_blank : ∀ c ∈ line.getLast?, isBlank c = false

/-- All lines of code are tidy. -/
def Tidy (code : Code) : Prop :=
  ∀ line ∈ code.lines, TidyLine line

/-- A bare line is tidy. -/
theorem tidyLine_nil : TidyLine [] where
  newline_not_mem := List.not_mem_nil
  not_blank := by simp

/-- What is trimmed at the end does not end in a blank. -/
theorem not_blank_getLast?_trimEnd (s : List Char) :
    ∀ c ∈ (trimEnd s).getLast?, isBlank c = false := by
  intro c hc
  -- it is the first character that is kept from the other end
  rw [trimEnd, List.getLast?_reverse, trimStart] at hc
  have hhead := List.head?_dropWhile_not isBlank s.reverse
  rw [Option.mem_def.1 hc] at hhead
  simpa using hhead

/-- A line is tidy after it is indented. -/
theorem tidyLine_indented (columns : Nat) (h : '\n' ∉ line) : TidyLine (indented columns line) where
  newline_not_mem := newline_not_mem_indented h
  not_blank := by
    rw [indented]
    split
    · simp
    next hsome =>
      -- the spaces stand in front of what is left of the line, which has the last character
      have hlast : (trimEnd line).getLast?.isSome = true := by simpa using hsome
      rw [List.getLast?_append, Option.or_of_isSome hlast]
      exact not_blank_getLast?_trimEnd line

/-- Code stays tidy when a tidy line is added. -/
theorem Tidy.append (h : Tidy code) (hline : TidyLine line) : Tidy (code.append [line]) := by
  intro other hother
  rcases List.mem_append.1 hother with hother | hother
  · exact h other hother
  · rwa [List.mem_singleton.1 hother]

/-- An act keeps code tidy. -/
theorem Tidy.perform (h : Tidy code) (hone : ∀ text, act = .line text → '\n' ∉ text) :
    Tidy (perform code act) := by
  cases act with
  | line text => exact h.append (tidyLine_indented code.columns (hone text rfl))
  | blank => exact h.append tidyLine_nil
  | indent => exact h
  | dedent => exact h

/-- Acts keep code tidy. -/
theorem Tidy.foldl_perform (h : Tidy code) (hone : ∀ text, .line text ∈ acts → '\n' ∉ text) :
    Tidy (acts.foldl Code.perform code) := by
  induction acts generalizing code with
  | nil => exact h
  | cons act acts ih =>
    have hact : Tidy (Code.perform code act) :=
      h.perform fun text heq => hone text (heq ▸ List.mem_cons_self)
    exact ih hact fun text htext => hone text (List.mem_cons_of_mem act htext)

/-- Code of tidy lines is split into these lines, with an empty one behind them. -/
theorem Tidy.splitLines_text (h : Tidy code) : splitLines code.text = code.lines ++ [[]] :=
  Code.splitLines_text fun line hline => (h line hline).newline_not_mem

/-- No line of the text of tidy code ends in a blank. -/
theorem Tidy.not_blank (h : Tidy code) :
    ∀ line ∈ splitLines code.text, ∀ c ∈ line.getLast?, isBlank c = false := by
  intro line hline
  rw [h.splitLines_text, List.mem_append, List.mem_singleton] at hline
  rcases hline with hline | rfl
  · exact (h line hline).not_blank
  · exact tidyLine_nil.not_blank

/-- The text of code is empty or ends with a line feed. -/
theorem text_eq_nil_or_getLast? (code : Code) :
    code.text = [] ∨ code.text.getLast? = some '\n' := by
  obtain ⟨width, level, lines⟩ := code
  rcases List.eq_nil_or_concat lines with rfl | ⟨lines, line, rfl⟩
  · exact .inl rfl
  · exact .inr (by simp [text, ← List.append_assoc])

/-! ## Code behind other code -/

/-- Code with lines in front of it. -/
def after (code : Code) (lines : List (List Char)) : Code :=
  { code with lines := lines ++ code.lines }

/-- Code without the lines that stand there, at the same level. -/
def bare (code : Code) : Code :=
  { code with lines := [] }

/-- Code stands behind its own lines. -/
theorem after_bare (code : Code) : code.bare.after code.lines = code := by
  simp [after, bare]

/-- The text of code behind lines is that of the lines and then its own. -/
theorem text_after (start code : Code) :
    (code.after start.lines).text = start.text ++ code.text := by
  simp [text, after]

/-- An act does the same behind other lines. -/
theorem perform_after (code : Code) (lines : List (List Char)) (act : Act) :
    perform (code.after lines) act = (perform code act).after lines := by
  cases act with
  | line text => simp [perform, after, addLine]
  | blank => simp [perform, after, addBlank]
  | indent => rfl
  | dedent => rfl

/-- Acts do the same behind other lines. -/
theorem foldl_perform_after (code : Code) (lines : List (List Char)) (acts : List Act) :
    acts.foldl perform (code.after lines) = (acts.foldl perform code).after lines :=
  List.foldl_hom (fun code => code.after lines) fun code act => perform_after code lines act

/-! ## Code a level deeper -/

/-- A line with `width` spaces in front of it, unless it is empty. -/
def deepenLine (width : Nat) (line : List Char) : List Char :=
  if line.isEmpty then [] else List.replicate width ' ' ++ line

/-- A text with `width` spaces in front of every line that is not empty. -/
def deepenText (width : Nat) (text : List Char) : List Char :=
  joinLines ((splitLines text).map (deepenLine width))

/-- The same code one level deeper. -/
def deepen (code : Code) : Code :=
  { code with level := code.level + 1, lines := code.lines.map (deepenLine code.width) }

/-- A line that is indented further has more spaces in front of it. -/
theorem indented_add (columns width : Nat) (line : List Char) :
    indented (columns + width) line = deepenLine width (indented columns line) := by
  rw [indented, indented]
  split
  · rfl
  next hsome =>
    -- the line is not empty, with or without the first spaces
    have hne : (List.replicate columns ' ' ++ trimEnd line).isEmpty = false := by
      simpa using fun _ => by simpa using hsome
    rw [deepenLine, hne, if_neg Bool.false_ne_true, ← List.append_assoc,
      List.replicate_append_replicate, Nat.add_comm]

/-- A line with spaces in front of it is on one line. -/
theorem newline_not_mem_deepenLine {width : Nat} (h : '\n' ∉ line) :
    '\n' ∉ deepenLine width line := by
  rw [deepenLine]
  split
  · exact List.not_mem_nil
  · simp [List.mem_append, h]

/-- The text of code a level deeper. -/
theorem Tidy.text_deepen (h : Tidy code) : code.deepen.text = deepenText code.width code.text := by
  have hone : ∀ line ∈ code.deepen.lines, '\n' ∉ line := by
    intro line hline
    obtain ⟨line, hmem, rfl⟩ := List.mem_map.1 hline
    exact newline_not_mem_deepenLine (h line hmem).newline_not_mem
  calc code.deepen.text
      = joinLines (splitLines code.deepen.text) := (joinWith_splitAt '\n' _).symm
    _ = joinLines ((code.lines ++ [[]]).map (deepenLine code.width)) := by
        rw [Code.splitLines_text hone, List.map_append]
        rfl
    _ = deepenText code.width code.text := by rw [deepenText, h.splitLines_text]

/-- An act does the same a level deeper, unless it goes back from the outermost level. -/
theorem perform_deepen (h : act = .dedent → 0 < code.level) :
    perform code.deepen act = (perform code act).deepen := by
  cases act with
  | line text =>
    have hcolumns : code.width * (code.level + 1) = code.width * code.level + code.width :=
      Nat.mul_succ _ _
    simp [perform, deepen, addLine, hcolumns, indented_add]
  | blank => simp [perform, deepen, addBlank, deepenLine]
  | indent => rfl
  | dedent =>
    -- at the outermost level the left side would be zero and the right side one
    have hlevel : code.level + 1 - 1 = code.level - 1 + 1 := by
      have hpos := h rfl
      omega
    simp only [perform, deepen, dedent, hlevel]

/-- Acts keep the width of a level. -/
theorem width_foldl_perform (code : Code) (acts : List Act) :
    (acts.foldl perform code).width = code.width := by
  induction acts generalizing code with
  | nil => rfl
  | cons act acts ih =>
    rw [List.foldl_cons, ih]
    cases act <;> rfl

/-- An act changes the level by one for a level that it enters or leaves, unless it goes back from
the outermost level. -/
theorem level_perform (h : act = .dedent → 0 < code.level) :
    (perform code act).level + [act].count .dedent = code.level + [act].count .indent := by
  cases act with
  | line text => rfl
  | blank => rfl
  | indent => rfl
  | dedent => exact Nat.sub_add_cancel (h rfl)

/-- Acts that never go back from the outermost level do the same a level deeper. -/
theorem foldl_perform_deepen
    (h : ∀ before, before <+: acts → before.count .dedent ≤ code.level + before.count .indent) :
    acts.foldl perform code.deepen = (acts.foldl perform code).deepen := by
  induction acts generalizing code with
  | nil => rfl
  | cons act acts ih =>
    have hact : act = .dedent → 0 < code.level := by
      rintro rfl
      exact h [.dedent] (by simp)
    rw [List.foldl_cons, List.foldl_cons, perform_deepen hact]
    -- the levels entered and left by the first act are counted in the level behind it
    refine ih fun before hbefore => ?_
    have hcount := h ([act] ++ before) (List.cons_prefix_cons.2 ⟨rfl, hbefore⟩)
    rw [List.count_append, List.count_append] at hcount
    have hlevel := level_perform hact
    omega

/-! ## Steps -/

/-- Whether steps never go back from their start shows after each of their acts. -/
instance (steps : List Step) : Decidable (NeverBelowStart steps) :=
  decidable_of_iff
    (∀ before ∈ (actsOf steps).inits, before.count .dedent ≤ before.count .indent)
    (by simp [NeverBelowStart])

/-- Steps add to code what they build at its level without its lines. -/
theorem runSteps_eq_after (start : Code) (steps : List Step) :
    runSteps start steps = (runSteps start.bare steps).after start.lines := by
  rw [runSteps_eq_foldl, runSteps_eq_foldl, ← foldl_perform_after, after_bare]

/-- Steps that never go back from their start build the same one level deeper. -/
theorem NeverBelowStart.runSteps_deepen {steps : List Step} (h : NeverBelowStart steps)
    (code : Code) : runSteps code.deepen steps = (runSteps code steps).deepen := by
  rw [runSteps_eq_foldl, runSteps_eq_foldl]
  -- counted from the level of the code, there is even more room to go back
  refine foldl_perform_deepen fun before hbefore => ?_
  exact Nat.le_trans (h before hbefore) (Nat.le_add_left _ _)

/-- Steps build tidy code if the texts that they add as single lines have no line feeds. -/
theorem tidy_runSteps_bare {steps : List Step} (hone : ∀ text ∈ singlesOf steps, '\n' ∉ text)
    (start : Code) : Tidy (runSteps start.bare steps) := by
  rw [runSteps_eq_foldl]
  have hbare : Tidy start.bare := by simp [Tidy, bare]
  refine hbare.foldl_perform fun text htext hfeed => ?_
  exact hone text (mem_singlesOf_of_newline_mem hfeed steps htext) hfeed

/-- Steps keep the width of a level. -/
theorem width_runSteps (code : Code) (steps : List Step) :
    (runSteps code steps).width = code.width := by
  rw [runSteps_eq_foldl, width_foldl_perform]

/-- Code is indented uniformly, at any width, from any code on, and for any steps, among them
`Step.forEach` with steps of its own for every item. If the texts that the steps add as single lines
have no line feeds, the text that they add is empty or ends with a line feed, and none of its lines
ends in a blank. If moreover they never go back from the level where they start, then one level
deeper they add the same text with the spaces of one level in front of every line that is not empty,
and end one level deeper. The text after a step, wherever it is taken, extends the text before it,
so that each text of a build extends all earlier ones. A block whose steps end at the level where
they start leaves the level as it is. -/
theorem indents_uniformly (start : Code) (steps : List Step)
    (hone : ∀ text ∈ singlesOf steps, '\n' ∉ text) :
    (∃ added, (runSteps start steps).text = start.text ++ added ∧
      (added = [] ∨ added.getLast? = some '\n') ∧
      (∀ line ∈ splitLines added, ∀ c ∈ line.getLast?, isBlank c = false) ∧
      (NeverBelowStart steps →
        (runSteps start.indent steps).text = start.text ++ deepenText start.width added ∧
          (runSteps start.indent steps).level = (runSteps start steps).level + 1)) ∧
    (∀ code step, code.text <+: (runStep code step).text) ∧
    (start.text :: (traceSteps start steps).map fun entry => entry.2.text).Pairwise (· <+: ·) ∧
    (∀ code header close body,
      (runSteps (code.addLine header).indent body).level = (code.addLine header).indent.level →
        (runStep code (.block header close body)).level = code.level) := by
  have htidy := tidy_runSteps_bare hone start
  -- what is added is the text of the build that starts without lines
  refine ⟨⟨(runSteps start.bare steps).text, ?_, text_eq_nil_or_getLast? _, htidy.not_blank, ?_⟩,
    text_prefix_runStep, ?_, ?_⟩
  · rw [runSteps_eq_after, text_after]
  · intro hstart
    -- a level deeper, that build is deepened and stands behind the same lines
    have hdeeper : runSteps start.indent steps =
        (runSteps start.bare steps).deepen.after start.lines := by
      rw [runSteps_eq_after, ← hstart.runSteps_deepen]
      rfl
    rw [hdeeper, text_after, htidy.text_deepen, width_runSteps, runSteps_eq_after start]
    exact ⟨rfl, rfl⟩
  · -- the texts of the trace grow, up to that of the whole build
    have hgrow := grow_traceSteps start steps
    rw [Grow, ← List.cons_append] at hgrow
    exact (List.pairwise_append.1 hgrow).1
  · -- the closing line stands one level above the end of the steps inside
    intro code header close body hlevel
    have hback : (runStep code (.block header close body)).level =
        (runSteps (code.addLine header).indent body).level - 1 := by
      rw [runStep]
      rfl
    rw [hback, hlevel]
    rfl

/-- Steps with blank lines and trailing blanks, and with a block that ends at the level of its
header. -/
def sampleSteps : List Step :=
  [.when true [.line "import a.B; ".toList, .blank], .indent,
    .block "object \x7b".toList "\x7d".toList
      [.forEach ["x", "y"] fun name => [.lines ("val " ++ name ++ "\n \t\n").toList, .indent,
        .each ["a".toList, []], .dedent], .dedent, .line "b\r".toList],
    .when false [.line "\n".toList, .dedent]]

/-- The steps are run from the first level and from the second, behind a line that stays as it
is. -/
theorem indents_uniformly_sampleSteps :
    let start : Code := { width := 2, level := 1, lines := ["p".toList] }
    (∀ text ∈ singlesOf sampleSteps, '\n' ∉ text) ∧ NeverBelowStart sampleSteps ∧
      (runSteps start sampleSteps).text =
        ("p\n  import a.B;\n\n    object \x7b\n      val x\n\n\n        a\n\n" ++
          "      val y\n\n\n        a\n\n    b\n  \x7d\n").toList ∧
      (runSteps start.indent sampleSteps).text =
        ("p\n    import a.B;\n\n      object \x7b\n        val x\n\n\n          a\n\n" ++
          "        val y\n\n\n          a\n\n      b\n    \x7d\n").toList ∧
      (runSteps start.indent sampleSteps).level = 2 := by
  intro start
  have hone : ∀ text ∈ singlesOf sampleSteps, '\n' ∉ text := by decide +kernel
  have hstart : NeverBelowStart sampleSteps := by decide +kernel
  obtain ⟨⟨added, htext, -, -, hdeeper⟩, -⟩ := indents_uniformly start sampleSteps hone
  obtain ⟨hdeeperText, hlevel⟩ := hdeeper hstart
  -- what is added is the text behind the line that was there
  have hadded : added = (runSteps start sampleSteps).text.drop start.text.length := by
    rw [htext, List.drop_left]
  refine ⟨hone, hstart, by decide +kernel, ?_, ?_⟩
  · rw [hdeeperText, hadded]
    decide +kernel
  · rw [hlevel]
    decide +kernel

end SnippetCheck.Code
