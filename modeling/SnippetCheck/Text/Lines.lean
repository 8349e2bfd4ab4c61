/-!
# Splitting And Joining

A text is split at every occurrence of a separator, which leaves one part more than there
are separators; joining puts the separators back. Lines are the parts between line feeds.

The main statement, `joinWith_splitAt`, says that joining undoes splitting.
-/

namespace SnippetCheck.Text

/-- Put `c` in front of the first part. -/
def consFirst (c : Char) : List (List Char) → List (List Char)
  | [] => [[c]]
  | part :: parts => (c :: part) :: parts

/-- The parts of a text between the occurrences of `sep`. -/
def splitAt (sep : Char) : List Char → List (List Char)
  | [] => [[]]
  | c :: s => if c = sep then [] :: splitAt sep s else consFirst c (splitAt sep s)

/-- Parts with `sep` between neighbours. -/
def joinWith (sep : Char) : List (List Char) → List Char
  | [] => []
  | [part] => part
  | part :: parts => part ++ sep :: joinWith sep parts

/-- The parts of a text between line feeds. -/
def splitLines (s : List Char) : List (List Char) :=
  splitAt '\n' s

/-- Lines with a line feed between neighbours. -/
def joinLines (lines : List (List Char)) : List Char :=
  joinWith '\n' lines

/-- A line that ended in a line feed also loses a carriage return before it. -/
private def dropReturn (line : List Char) : List Char :=
  if line.getLast? = some '\r' then line.dropLast else line

/-- Lines as a reader of the text counts them: a final line feed starts no further line,
and a carriage return before a line feed belongs to the line end. -/
def readLines (s : List Char) : List (List Char) :=
  let parts := splitLines s
  parts.dropLast.map dropReturn ++
    match parts.getLast? with
    | some last => if last.isEmpty then [] else [last]
    | none => []

/-- Splitting never yields the empty list. -/
theorem splitAt_ne_nil (sep : Char) (s : List Char) : splitAt sep s ≠ [] := by
  cases s with
  | nil => simp [splitAt]
  | cons c s =>
    rw [splitAt]
    split
    · simp
    · cases splitAt sep s <;> simp [consFirst]

/-- Joining a first part that grows by `c` grows the text by `c`. -/
theorem joinWith_consFirst (sep c : Char) {parts : List (List Char)} (h : parts ≠ []) :
    joinWith sep (consFirst c parts) = c :: joinWith sep parts := by
  match parts, h with
  | [part], _ => rfl
  | part :: next :: rest, _ => rfl

/-- Joining undoes splitting. -/
@[simp]
theorem joinWith_splitAt (sep : Char) (s : List Char) : joinWith sep (splitAt sep s) = s := by
  induction s with
  | nil => rfl
  | cons c s ih =>
    rw [splitAt]
    split
    next h =>
      subst h
      cases hs : splitAt c s with
      | nil => exact absurd hs (splitAt_ne_nil c s)
      | cons part parts => rw [joinWith.eq_3 _ _ _ (by simp), ← hs, ih, List.nil_append]
    next h => rw [joinWith_consFirst _ _ (splitAt_ne_nil sep s), ih]

/-- No part contains the separator. -/
theorem sep_not_mem_of_mem_splitAt {sep : Char} {s part : List Char}
    (h : part ∈ splitAt sep s) : sep ∉ part := by
  induction s generalizing part with
  | nil => simp_all [splitAt]
  | cons c s ih =>
    rw [splitAt] at h
    split at h
    · -- a separator starts a part, which is empty so far
      rcases List.mem_cons.1 h with rfl | h
      · simp
      · exact ih h
    next hc =>
      -- any other character joins the first part of the rest
      cases hs : splitAt sep s with
      | nil => exact absurd hs (splitAt_ne_nil sep s)
      | cons first rest =>
        rw [hs, consFirst] at h
        rcases List.mem_cons.1 h with rfl | h
        · have := ih (hs ▸ List.mem_cons_self)
          simp [this, Ne.symm hc]
        · exact ih (hs ▸ List.mem_cons_of_mem _ h)

/-- Whether a line is read with its carriage return matters only to what depends on it. -/
private theorem apply_dropReturn {α : Type} {f : List Char → α}
    (h : ∀ line, f (line ++ ['\r']) = f line) (line : List Char) :
    f (dropReturn line) = f line := by
  rw [dropReturn]
  split
  next hreturn =>
    obtain ⟨before, rfl⟩ := List.getLast?_eq_some_iff.1 hreturn
    rw [List.dropLast_concat, h]
  next => rfl

/-- What is made of the lines that meet a condition is the same for the lines as they are read,
if a carriage return at the end matters neither to it nor to the condition, and an empty line
does not meet the condition. -/
theorem map_filter_readLines {α : Type} {meets : List Char → Bool} {f : List Char → α}
    (hmeets : ∀ line, meets (line ++ ['\r']) = meets line)
    (hf : ∀ line, f (line ++ ['\r']) = f line) (hempty : meets [] = false) (s : List Char) :
    ((readLines s).filter meets).map f = ((splitLines s).filter meets).map f := by
  have hreturns (lines : List (List Char)) :
      ((lines.map dropReturn).filter meets).map f = (lines.filter meets).map f := by
    induction lines with
    | nil => rfl
    | cons line lines ih =>
      rw [List.map_cons, List.filter_cons, List.filter_cons, apply_dropReturn hmeets]
      split
      · rw [List.map_cons, List.map_cons, apply_dropReturn hf, ih]
      · exact ih
  -- the last part is read as a line unless it is empty
  obtain ⟨before, last, hparts⟩ : ∃ before last, splitLines s = before ++ [last] :=
    ⟨_, _, (List.dropLast_concat_getLast (splitAt_ne_nil '\n' s)).symm⟩
  have hlast : (if last.isEmpty then [] else [last]).filter meets = [last].filter meets := by
    cases last with
    | nil => simp [hempty]
    | cons => rfl
  simp only [readLines, hparts, List.dropLast_concat, List.getLast?_concat, List.filter_append,
    List.map_append, hreturns, hlast]

end SnippetCheck.Text
