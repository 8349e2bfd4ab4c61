import SnippetCheck.Text.Lines

/-!
# Splitting Concatenations

A text without the separator is one part (`splitAt_of_not_mem`), and a separator between two
texts separates their parts (`splitAt_append_cons`). So the parts of texts that are joined are those
of each text (`splitAt_joinWith_eq_flatMap`), and splitting undoes joining (`splitAt_joinWith`).
Lines that are joined are the first one and what follows it (`joinLines_cons`).
-/

namespace SnippetCheck.Text

/-- A text without the separator is not split. -/
theorem splitAt_of_not_mem {sep : Char} {s : List Char} (h : sep ∉ s) : splitAt sep s = [s] := by
  induction s with
  | nil => rfl
  | cons c s ih =>
    have hc : c ≠ sep := fun heq => h (heq ▸ List.mem_cons_self)
    have hs : sep ∉ s := fun hmem => h (List.mem_cons_of_mem c hmem)
    rw [splitAt, if_neg hc, ih hs, consFirst]

/-- The parts of two texts with a separator between them are those of the one and of the
other. -/
theorem splitAt_append_cons (sep : Char) (s t : List Char) :
    splitAt sep (s ++ sep :: t) = splitAt sep s ++ splitAt sep t := by
  induction s with
  | nil => simp [splitAt]
  | cons c s ih =>
    rw [List.cons_append, splitAt, splitAt, ih]
    by_cases hc : c = sep
    · rw [if_pos hc, if_pos hc, List.cons_append]
    · rw [if_neg hc, if_neg hc]
      obtain ⟨part, parts, hparts⟩ := List.exists_cons_of_ne_nil (splitAt_ne_nil sep s)
      rw [hparts]
      rfl

/-- What stands in front of a text without the separator in it stands in front of its first part. -/
theorem exists_splitAt_append_left {sep : Char} {t : List Char} (h : sep ∉ t) (s : List Char) :
    ∃ first after, splitAt sep s = first :: after ∧
      splitAt sep (t ++ s) = (t ++ first) :: after := by
  induction t with
  | nil =>
    obtain ⟨first, after, heq⟩ := List.exists_cons_of_ne_nil (splitAt_ne_nil sep s)
    exact ⟨first, after, heq, heq⟩
  | cons c t ih =>
    obtain ⟨first, after, hs, hst⟩ := ih fun hmem => h (List.mem_cons_of_mem c hmem)
    have hc : c ≠ sep := fun heq => h (heq ▸ List.mem_cons_self)
    refine ⟨first, after, hs, ?_⟩
    rw [List.cons_append, splitAt, if_neg hc, hst]
    rfl

/-- What stands behind a text without the separator in it stands behind its last part. -/
theorem exists_splitAt_append_right {sep : Char} {t : List Char} (h : sep ∉ t) (s : List Char) :
    ∃ before last, splitAt sep s = before ++ [last] ∧
      splitAt sep (s ++ t) = before ++ [last ++ t] := by
  induction s with
  | nil => exact ⟨[], [], rfl, splitAt_of_not_mem h⟩
  | cons c s ih =>
    obtain ⟨before, last, hs, hst⟩ := ih
    rw [List.cons_append, splitAt, splitAt, hs, hst]
    by_cases hc : c = sep
    · rw [if_pos hc, if_pos hc]
      exact ⟨[] :: before, last, rfl, rfl⟩
    · rw [if_neg hc, if_neg hc]
      cases before with
      | nil => exact ⟨[], c :: last, rfl, rfl⟩
      | cons part before => exact ⟨(c :: part) :: before, last, rfl, rfl⟩

/-- The parts of texts that are joined are those of each text. -/
theorem splitAt_joinWith_eq_flatMap {sep : Char} {texts : List (List Char)} (hne : texts ≠ []) :
    splitAt sep (joinWith sep texts) = texts.flatMap (splitAt sep) := by
  induction texts with
  | nil => exact absurd rfl hne
  | cons text texts ih =>
    cases texts with
    | nil => simp [joinWith]
    | cons next texts =>
      rw [joinWith.eq_3 _ _ _ (List.cons_ne_nil _ _), splitAt_append_cons,
        ih (List.cons_ne_nil _ _)]
      rfl

/-- Texts without the separator are not split. -/
theorem flatMap_splitAt {sep : Char} {texts : List (List Char)} (h : ∀ text ∈ texts, sep ∉ text) :
    texts.flatMap (splitAt sep) = texts := by
  have hmap : texts.map (splitAt sep) = texts.map fun text => [text] :=
    List.map_congr_left fun text htext => splitAt_of_not_mem (h text htext)
  rw [List.flatMap_def, hmap, ← List.flatMap_def, List.flatMap_singleton']

/-- Splitting undoes joining. -/
theorem splitAt_joinWith {sep : Char} {parts : List (List Char)} (hne : parts ≠ [])
    (h : ∀ part ∈ parts, sep ∉ part) : splitAt sep (joinWith sep parts) = parts := by
  rw [splitAt_joinWith_eq_flatMap hne, flatMap_splitAt h]

/-- Parts that are joined are the first one and the others, each with the separator in front of
it. -/
theorem joinWith_cons (sep : Char) (part : List Char) (parts : List (List Char)) :
    joinWith sep (part :: parts) = part ++ parts.flatMap fun other => sep :: other := by
  induction parts generalizing part with
  | nil => simp [joinWith]
  | cons next parts ih =>
    rw [joinWith.eq_3 _ _ _ (List.cons_ne_nil _ _), ih]
    rfl

/-- The last part of a text is what stands behind its last separator. -/
theorem exists_splitAt_eq_append (sep : Char) (s : List Char) :
    ∃ before, splitAt sep s = before ++ [(s.reverse.takeWhile (· ≠ sep)).reverse] := by
  have hall := List.takeWhile_append_dropWhile (p := (· ≠ sep)) (l := s.reverse)
  have hlast : sep ∉ (s.reverse.takeWhile (· ≠ sep)).reverse := by
    intro hmem
    simpa using List.all_eq_true.1 List.all_takeWhile sep (List.mem_reverse.1 hmem)
  generalize s.reverse.takeWhile (· ≠ sep) = last at hall hlast ⊢
  cases hfront : s.reverse.dropWhile (· ≠ sep) with
  | nil =>
    -- there is no separator, and the text is its only part
    rw [hfront, List.append_nil] at hall
    have hs : s = last.reverse := by rw [hall, List.reverse_reverse]
    exact ⟨[], by rw [hs, splitAt_of_not_mem hlast, List.nil_append]⟩
  | cons c front =>
    have hc : c = sep := by
      have hhead := List.head?_dropWhile_not (· ≠ sep) s.reverse
      rw [hfront] at hhead
      simpa using hhead
    have hs : s = front.reverse ++ sep :: last.reverse := by
      rw [hfront, hc] at hall
      simpa using congrArg List.reverse hall.symm
    refine ⟨splitAt sep front.reverse, ?_⟩
    rw [hs, splitAt_append_cons, splitAt_of_not_mem hlast]

/-! ## Lines -/

/-- What may stand behind a line: nothing, or a line feed and further lines. -/
def EndsLine (s : List Char) : Prop :=
  s = [] ∨ ∃ t, s = '\n' :: t

/-- Lines that stand behind a line, each with the line feed in front of it. -/
def following (lines : List (List Char)) : List Char :=
  lines.flatMap fun line => '\n' :: line

/-- The first line that follows stands behind a line feed. -/
theorem following_cons (line : List Char) (lines : List (List Char)) :
    following (line :: lines) = '\n' :: (line ++ following lines) := rfl

/-- Lines that follow a line may stand behind it. -/
theorem endsLine_following (lines : List (List Char)) : EndsLine (following lines) := by
  cases lines with
  | nil => exact .inl rfl
  | cons line lines => exact .inr ⟨_, rfl⟩

/-- A text without line feeds that stands at the start of a line, whatever follows the line,
stands in the line. -/
theorem EndsLine.prefix_of_prefix {s line tail : List Char} (htail : EndsLine tail)
    (hfeed : '\n' ∉ s) (h : s <+: line ++ tail) : s <+: line := by
  obtain ⟨rest, heq⟩ := h
  rcases List.append_eq_append_iff.1 heq with ⟨back, hline, -⟩ | ⟨more, hs, hmore⟩
  · exact ⟨back, hline.symm⟩
  · -- what reaches over the end of the line starts with a line feed, unless it is nothing
    cases more with
    | nil => exact ⟨[], by simpa using hs⟩
    | cons c more =>
      rcases htail with rfl | ⟨rest, rfl⟩
      · simp at hmore
      · obtain ⟨rfl, -⟩ := List.cons.inj hmore
        exact absurd (by simp [hs]) hfeed

/-- Lines are a line and what follows it. -/
theorem joinLines_cons (line : List Char) (lines : List (List Char)) :
    joinLines (line :: lines) = line ++ following lines :=
  joinWith_cons '\n' line lines

end SnippetCheck.Text
