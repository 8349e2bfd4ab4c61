import Mathlib.Data.List.Forall2
import SnippetCheck.Proofs.Code

/-!
# Carriage Returns At Line Ends

A text whose lines end in a carriage return and a line feed is the text whose lines end in a line
feed alone, with returns added (`Returns`). The relation is kept by what a reader does that takes
returns for trailing blanks: splitting and joining lines, trimming, and looking for words without
line ends. Where such a reader stops in the two texts, it has passed texts that go on alike
(`Leads`), and code that is built from either text is the same (`addLines_eq`).
-/

namespace SnippetCheck.Text

/-- A text with a carriage return in front of every line feed. -/
def addReturns (s : List Char) : List Char :=
  s.flatMap fun c => if c = '\n' then ['\r', '\n'] else [c]

/-- The second text is the first one with carriage returns at the ends of some of its lines. -/
inductive Returns : List Char → List Char → Prop where
  /-- No line ends. -/
  | nil : Returns [] []
  /-- A return at the end of the last line. -/
  | last : Returns [] ['\r']
  /-- The same character in both. -/
  | cons {s t} (c : Char) (h : Returns s t) : Returns (c :: s) (c :: t)
  /-- A return at the end of a line that others follow. -/
  | feed {s t} (h : Returns s t) : Returns ('\n' :: s) ('\r' :: '\n' :: t)

/-- The second line is the first one, or that with a carriage return at its end. -/
def LineReturns (line other : List Char) : Prop :=
  other = line ∨ other = line ++ ['\r']

/-- The second text is the first one with carriage returns at the ends of lines, but for the line
that is still open at the end: both can be gone on with. -/
def Leads (s t : List Char) : Prop :=
  ∀ rest other, Returns rest other → Returns (s ++ rest) (t ++ other)

variable {s t : List Char} {line other : List Char}

/-- Returns are added to the lines of a text. -/
theorem returns_addReturns (s : List Char) : Returns s (addReturns s) := by
  induction s with
  | nil => exact .nil
  | cons c s ih =>
    rw [addReturns, List.flatMap_cons, ← addReturns]
    split
    next hfeed => exact hfeed ▸ .feed ih
    next => exact .cons c ih

/-! ## Texts that are gone on with -/

/-- A text is gone on with alike in both. -/
theorem Leads.refl (s : List Char) : Leads s s := by
  intro rest other h
  induction s with
  | nil => exact h
  | cons c s ih => exact .cons c ih

/-- What goes on can be gone on with in turn. -/
theorem Leads.append {more others : List Char} (h : Leads s t) (hmore : Leads more others) :
    Leads (s ++ more) (t ++ others) := by
  intro rest other hrest
  rw [List.append_assoc, List.append_assoc]
  exact h _ _ (hmore _ _ hrest)

/-- Where a text ends, its last line may have a return. -/
theorem Leads.returns (h : Leads s t) : Returns s t := by
  simpa using h [] [] .nil

/-- A return at the end of a line that is ended by a line feed can be gone on with. -/
theorem leads_feed : Leads ['\n'] ['\r', '\n'] :=
  fun _ _ h => .feed h

/-! ## Lines -/

/-- A line with a return at its end is a text with one. -/
theorem LineReturns.returns (h : LineReturns line other) : Returns line other := by
  rcases h with rfl | rfl
  · exact (Leads.refl _).returns
  · simpa using Leads.refl line _ _ .last

/-- A line that is a character longer has the same return. -/
private theorem LineReturns.cons (c : Char) (h : LineReturns line other) :
    LineReturns (c :: line) (c :: other) := by
  rcases h with rfl | rfl
  · exact .inl rfl
  · exact .inr rfl

/-- Lines are split alike. -/
theorem Returns.splitLines (h : Returns s t) :
    List.Forall₂ LineReturns (splitLines s) (splitLines t) := by
  induction h with
  | nil => exact .cons (.inl rfl) .nil
  | last => exact .cons (.inr rfl) .nil
  | @cons s t c _ ih =>
    simp only [Text.splitLines, splitAt] at ih ⊢
    split
    · exact .cons (.inl rfl) ih
    · -- the character belongs to the first line of both
      cases hs : splitAt '\n' s with
      | nil => exact absurd hs (splitAt_ne_nil _ _)
      | cons line lines =>
        rw [hs] at ih
        obtain ⟨other, others, hline, hlines, ht⟩ := List.forall₂_cons_left_iff.1 ih
        rw [ht]
        exact .cons (hline.cons c) hlines
  | @feed s t _ ih => exact .cons (.inr rfl) ih

/-- Lines are joined alike. -/
theorem returns_joinLines {lines others : List (List Char)}
    (h : List.Forall₂ LineReturns lines others) : Returns (joinLines lines) (joinLines others) := by
  induction h with
  | nil => exact .nil
  | @cons line other lines others hline hlines ih =>
    cases hlines with
    | nil =>
      exact hline.returns
    | cons =>
      simp only [joinLines, joinWith] at ih ⊢
      rcases hline with rfl | rfl
      · exact Leads.refl _ _ _ (.cons _ ih)
      · simpa using Leads.refl line _ _ (.feed ih)

/-! ## Trimming -/

/-- Trimming the end leaves a character if something after it is left or it is not blank. -/
theorem trimEnd_cons (c : Char) (s : List Char) :
    trimEnd (c :: s) = if trimEnd s = [] ∧ isBlank c = true then [] else c :: trimEnd s := by
  simp only [trimEnd, trimStart, List.reverse_cons, List.dropWhile_append, List.reverse_eq_nil_iff,
    List.isEmpty_iff]
  by_cases hs : s.reverse.dropWhile isBlank = []
  · cases hc : isBlank c <;> simp [hs, hc]
  · simp [hs]

/-- The carriage return is blank. -/
@[simp]
theorem isBlank_return : isBlank '\r' = true := by decide

/-- Trimming the end leaves nothing of the one text if it leaves nothing of the other. -/
private theorem Returns.trimEnd_eq_nil_iff (h : Returns s t) :
    Text.trimEnd s = [] ↔ Text.trimEnd t = [] := by
  induction h with
  | nil => rfl
  | last => decide
  | cons c _ ih => simp [trimEnd_cons, ih]
  | feed _ ih => simp [trimEnd_cons, ih]

/-- The end is trimmed alike. -/
theorem Returns.trimEnd (h : Returns s t) : Returns (trimEnd s) (trimEnd t) := by
  induction h with
  | nil => exact .nil
  | last => exact .nil
  | cons c h ih =>
    simp only [trimEnd_cons, h.trimEnd_eq_nil_iff]
    split
    · exact .nil
    · exact .cons c ih
  | @feed s t h ih =>
    by_cases hempty : Text.trimEnd t = []
    · simpa [trimEnd_cons, h.trimEnd_eq_nil_iff, hempty] using .nil
    · simpa [trimEnd_cons, h.trimEnd_eq_nil_iff, hempty] using .feed ih

/-- The start is trimmed alike. -/
theorem Returns.trimStart (h : Returns s t) : Returns (trimStart s) (trimStart t) := by
  induction h with
  | nil => exact .nil
  | last => exact .nil
  | cons c h ih =>
    simp only [Text.trimStart, List.dropWhile_cons] at ih ⊢
    split
    · exact ih
    · exact .cons c h
  | feed _ ih => exact ih

/-- Nothing of a text is lost where returns are added. -/
theorem Returns.subset (h : Returns s t) : s ⊆ t := by
  induction h with
  | nil => exact List.Subset.refl _
  | last => exact List.nil_subset _
  | cons c _ ih => exact List.cons_subset_cons c ih
  | feed _ ih => exact List.subset_cons_of_subset _ (List.cons_subset_cons _ ih)

/-- Of a text that is one line when its end is trimmed, the same is left. -/
private theorem Returns.trimEnd_eq (h : Returns s t) (hline : '\n' ∉ Text.trimEnd s) :
    Text.trimEnd t = Text.trimEnd s := by
  induction h with
  | nil => rfl
  | last => rfl
  | cons c h ih =>
    simp only [trimEnd_cons, h.trimEnd_eq_nil_iff] at hline ⊢
    split
    next => rfl
    next hsome =>
      rw [if_neg hsome] at hline
      rw [ih (mt (List.mem_cons_of_mem c) hline)]
  | @feed s t h ih =>
    by_cases hempty : Text.trimEnd t = []
    · simp [trimEnd_cons, h.trimEnd_eq_nil_iff, hempty]
    · simp [trimEnd_cons, h.trimEnd_eq_nil_iff, hempty] at hline

/-- Trimming a text leaves a given line if it leaves that of the text with returns. -/
theorem Returns.trim_eq_iff (h : Returns s t) {line : List Char} (hline : '\n' ∉ line) :
    trim t = line ↔ trim s = line := by
  have hstart := h.trimStart
  refine ⟨fun ht => ?_, fun hs => ?_⟩
  · rw [← ht] at hline ⊢
    exact (hstart.trimEnd_eq (mt (hstart.trimEnd.subset ·) hline)).symm
  · rw [← hs] at hline ⊢
    exact hstart.trimEnd_eq hline

/-- Trimming the end of a line removes its return. -/
theorem LineReturns.trimEnd_eq (h : LineReturns line other) : trimEnd other = trimEnd line := by
  rcases h with rfl | rfl
  · rfl
  · simp [trimEnd, trimStart]

/-- Trimming the start of a line leaves its return, unless nothing is left. -/
theorem LineReturns.trimStart (h : LineReturns line other) :
    LineReturns (trimStart line) (trimStart other) := by
  rcases h with rfl | rfl
  · exact .inl rfl
  · simp only [Text.trimStart, List.dropWhile_append]
    split
    next hblank =>
      rw [List.isEmpty_iff] at hblank
      exact .inl (by simp [hblank])
    next => exact .inr rfl

/-- Trimming a line removes its return. -/
theorem LineReturns.trim_eq (h : LineReturns line other) : trim other = trim line :=
  h.trimStart.trimEnd_eq

/-- What is made of each line alone is the same when it does not depend on returns. -/
theorem map_eq_of_lineReturns {α : Type} {lines others : List (List Char)} {f : List Char → α}
    (hf : ∀ {line other}, LineReturns line other → f other = f line)
    (h : List.Forall₂ LineReturns lines others) : others.map f = lines.map f := by
  induction h with
  | nil => rfl
  | cons hline _ ih => rw [List.map_cons, List.map_cons, hf hline, ih]

/-- The code that is built from the lines of a text does not depend on returns. -/
theorem Returns.addLines_eq (h : Returns s t) (code : Code) :
    code.addLines t = code.addLines s := by
  have hindented {line other : List Char} (hline : LineReturns line other) :
      Code.indented code.columns other = Code.indented code.columns line := by
    rw [Code.indented, Code.indented, hline.trimEnd_eq]
  rw [Code.addLines_eq_append, Code.addLines_eq_append,
    map_eq_of_lineReturns hindented h.splitLines]

end SnippetCheck.Text
