import SnippetCheck.Proofs.Source.Visibility

/-!
# Removing Modifiers Line By Line

A rule without qualifiers strips the lines of a text one by one: a line loses the modifier in front
of a declaration that stands on it (`stripLine`). Only a modifier that stands alone on its line
reaches further: if the next line that is not blank declares a type, it is joined to the indentation
of the modifier, and the lines between are lost (`joined?`). `stripLines` says what becomes of all
lines, and the lines of a stripped text are just these (`splitLines_stripVisibility`).
-/

namespace SnippetCheck.Source

open Text Document

variable {rule : VisibilityRule} {s tail line : List Char} {lines : List (List Char)}

/-! ## One line -/

/-- A line without the modifier in front of a declaration that stands on it. -/
def stripLine (rule : VisibilityRule) (line : List Char) : List Char :=
  match modified? rule (trimStart line) with
  | some (declared, rest) => line.takeWhile isBlank ++ (declared ++ rest)
  | none => line

/-- A line is its leading blanks and the rest. -/
theorem takeWhile_append_trimStart (line : List Char) :
    line.takeWhile isBlank ++ trimStart line = line :=
  List.takeWhile_append_dropWhile

/-- Trimming the start of a line leaves a part of it. -/
theorem newline_not_mem_trimStart (hline : '\n' ∉ line) : '\n' ∉ trimStart line :=
  fun hmem => hline ((List.dropWhile_suffix isBlank).subset hmem)

/-- The indentation of a line and a text without line feeds make a line. -/
theorem newline_not_mem_indentation_append (hline : '\n' ∉ line) (hs : '\n' ∉ s) :
    '\n' ∉ line.takeWhile isBlank ++ s := by
  rw [List.mem_append, not_or]
  exact ⟨fun hmem => hline ((List.takeWhile_prefix isBlank).subset hmem), hs⟩

/-- What is left of a text when its start is trimmed starts with no blank. -/
theorem isBlank_of_trimStart_eq_cons {c : Char} (h : trimStart line = c :: s) :
    isBlank c = false := by
  have hhead := List.head?_dropWhile_not isBlank line
  rw [← trimStart, h] at hhead
  simpa using hhead

/-- Blanks in front of a text stay. -/
theorem stripFrom_blanks_append {blanks : List Char} (hblanks : ∀ c ∈ blanks, isBlank c = true)
    (s : List Char) : stripFrom rule true (blanks ++ s) = blanks ++ stripFrom rule true s := by
  induction blanks with
  | nil => rfl
  | cons c blanks ih =>
    obtain ⟨hc, hblanks⟩ := List.forall_mem_cons.1 hblanks
    rw [List.cons_append, stripFrom_of_isBlank hc, Bool.or_true, ih hblanks, List.cons_append]

/-- The rest of a line stays. -/
theorem stripFrom_false_append (hs : '\n' ∉ s) (t : List Char) :
    stripFrom rule false (s ++ t) = s ++ stripFrom rule false t := by
  induction s with
  | nil => rfl
  | cons c s ih =>
    rw [List.mem_cons, not_or] at hs
    rw [List.cons_append, stripFrom_false_of_ne (Ne.symm hs.1), ih hs.2, List.cons_append]

/-- At a line end, it does not matter what stands before it on its line. -/
theorem stripFrom_of_endsLine (htail : EndsLine tail) (atStart : Bool) :
    stripFrom rule atStart tail = stripFrom rule true tail := by
  rcases htail with rfl | ⟨t, rfl⟩
  · rw [stripFrom, stripFrom]
  · rw [stripFrom_newline, stripFrom_newline]

section Direct

variable (hrule : rule.IsDirect)

include hrule

/-- A modifier that starts a text is removed. -/
theorem stripFrom_of_modified?_eq_some {kind rest : List Char}
    (h : modified? rule s = some (kind, rest)) :
    stripFrom rule true s = kind ++ stripFrom rule false rest := by
  obtain ⟨word, hword, blanks, -, -, -, -, rfl⟩ := (modified?_eq_some_iff hrule).1 h
  have hsolid := hrule.solid_modifier hword
  obtain ⟨c, word, rfl⟩ := List.exists_cons_of_ne_nil hsolid.ne_nil
  exact stripFrom_of_modified (hsolid.no_blank c List.mem_cons_self) h

/-- What stands behind a modifier and a kind of type is part of the line. -/
theorem newline_not_mem_of_modified? {kind rest : List Char} (hs : '\n' ∉ s)
    (h : modified? rule s = some (kind, rest)) : '\n' ∉ rest := by
  obtain ⟨word, -, blanks, -, -, -, -, rfl⟩ := (modified?_eq_some_iff hrule).1 h
  exact fun hrest => hs (by simp [hrest])

/-- A modifier that stands alone on a line is removed with all blanks behind it, if a declaration
follows them. -/
theorem stripFrom_append_of_mem {kind rest : List Char} (hmem : trim line ∈ rule.modifiers)
    (htail : EndsLine tail) (h : declaration? rule (trimStart tail) = some (kind, rest)) :
    stripFrom rule true (line ++ tail) =
      line.takeWhile isBlank ++ (kind ++ stripFrom rule false rest) := by
  have hmodified := modified?_append_of_mem hrule hmem htail
  rw [h] at hmodified
  rw [← stripFrom_of_modified?_eq_some hrule hmodified, ← stripFrom_blanks_append,
    ← List.append_assoc, takeWhile_append_trimStart]
  exact fun c hc => List.mem_takeWhile_imp hc

/-- Any other line is stripped alone. -/
theorem stripFrom_append (hline : '\n' ∉ line) (htail : EndsLine tail)
    (h : trim line ∈ rule.modifiers → ¬ Declares rule (trimStart tail)) :
    stripFrom rule true (line ++ tail) = stripLine rule line ++ stripFrom rule true tail := by
  have hstart := newline_not_mem_trimStart hline
  have hmodified := modified?_append hrule h htail
  conv_lhs => rw [← takeWhile_append_trimStart line]
  rw [List.append_assoc, stripFrom_blanks_append fun c hc => List.mem_takeWhile_imp hc, stripLine]
  cases hread : modified? rule (trimStart line) with
  | some read =>
    obtain ⟨kind, rest⟩ := read
    rw [hread] at hmodified
    rw [stripFrom_of_modified?_eq_some hrule hmodified,
      stripFrom_false_append (newline_not_mem_of_modified? hrule hstart hread),
      stripFrom_of_endsLine htail]
    simp only [id, List.append_assoc]
  | none =>
    rw [hread] at hmodified
    conv_rhs => rw [← takeWhile_append_trimStart line]
    rw [List.append_assoc]
    congr 1
    cases hs : trimStart line with
    | nil => rfl
    | cons c s =>
      rw [hs] at hmodified hstart
      rw [List.cons_append] at hmodified ⊢
      rw [stripFrom_of_modified_none (isBlank_of_trimStart_eq_cons hs) hmodified,
        stripFrom_false_append (fun hmem => hstart (List.mem_cons_of_mem c hmem)),
        stripFrom_of_endsLine htail, List.cons_append]

end Direct

/-! ## All lines -/

/-- The line that a modifier alone on a line is joined to: the next one that is not blank, if it
declares a type. What is left of the modifier's line is its indentation. The lines between are
dropped, and the lines after the declaration are returned with the joined line. -/
def joined? (rule : VisibilityRule) (line : List Char) (lines : List (List Char)) :
    Option (List Char × List (List Char)) :=
  if trim line ∈ rule.modifiers then
    match lines.dropWhile isBlankLine with
    | [] => none
    | next :: after =>
      if (declaration? rule (trimStart next)).isSome then
        some (line.takeWhile isBlank ++ trimStart next, after)
      else none
  else none

/-- What a modifier is joined to. -/
theorem exists_of_joined? {joined : List Char} {after : List (List Char)}
    (h : joined? rule line lines = some (joined, after)) :
    trim line ∈ rule.modifiers ∧ ∃ next, lines.dropWhile isBlankLine = next :: after ∧
      (declaration? rule (trimStart next)).isSome = true ∧
      joined = line.takeWhile isBlank ++ trimStart next := by
  rw [joined?, Option.ite_none_right_eq_some] at h
  obtain ⟨hmem, h⟩ := h
  split at h
  · cases h
  next next _ hdrop =>
    rw [Option.ite_none_right_eq_some, Option.some.injEq, Prod.mk.injEq] at h
    obtain ⟨hdeclares, rfl, rfl⟩ := h
    exact ⟨hmem, next, hdrop, hdeclares, rfl⟩

/-- The lines behind a joined line are fewer than those behind the modifier. -/
theorem length_lt_of_joined? {joined : List Char} {after : List (List Char)}
    (h : joined? rule line lines = some (joined, after)) : after.length < lines.length := by
  obtain ⟨-, next, hdrop, -, -⟩ := exists_of_joined? h
  have hle := (List.dropWhile_suffix isBlankLine (l := lines)).length_le
  rw [hdrop] at hle
  exact hle

/-- Lines without the modifiers of their declarations: each alone, but for a modifier alone on its
line, which is removed together with the line end if a declaration follows it. -/
def stripLines (rule : VisibilityRule) : List (List Char) → List (List Char)
  | [] => []
  | line :: lines =>
    match _h : joined? rule line lines with
    | some (joined, after) => joined :: stripLines rule after
    | none => stripLine rule line :: stripLines rule lines
termination_by lines => lines.length
decreasing_by
  · have := length_lt_of_joined? _h
    simp only [List.length_cons]
    omega
  · simp

/-- A blank line is trimmed with what follows it. -/
theorem trimStart_following_of_blank (hblank : isBlankLine line = true)
    (lines : List (List Char)) :
    trimStart (following (line :: lines)) = trimStart (following lines) := by
  rw [following_cons, trimStart, List.dropWhile_cons_of_pos isBlank_newline,
    List.dropWhile_append_of_pos (List.all_eq_true.1 hblank), ← trimStart]

/-- Of a line that is not blank, only the indentation is trimmed. -/
theorem trimStart_following_cons (hsome : trimStart line ≠ []) (lines : List (List Char)) :
    trimStart (following (line :: lines)) = trimStart line ++ following lines := by
  rw [following_cons, trimStart, List.dropWhile_cons_of_pos isBlank_newline, List.dropWhile_append,
    ← trimStart, if_neg (by simpa using hsome)]

/-- A line is blank if nothing of it is left when its start is trimmed. -/
theorem isBlankLine_iff : isBlankLine line = true ↔ trimStart line = [] :=
  List.all_eq_true.trans List.dropWhile_eq_nil_iff.symm

/-- Trimming the start of lines leaves the first one that is not blank and what follows it. -/
theorem trimStart_following (lines : List (List Char)) :
    trimStart (following lines) =
      match lines.dropWhile isBlankLine with
      | [] => []
      | next :: after => trimStart next ++ following after := by
  induction lines with
  | nil => rfl
  | cons line lines ih =>
    by_cases hblank : isBlankLine line = true
    · rw [trimStart_following_of_blank hblank, List.dropWhile_cons_of_pos hblank, ih]
    · rw [trimStart_following_cons (mt isBlankLine_iff.2 hblank),
        List.dropWhile_cons_of_neg hblank]

section Direct

variable (hrule : rule.IsDirect)

include hrule

/-- A modifier is joined to a line where it stands alone and the lines behind it start with a
declaration. -/
theorem isSome_joined?_iff :
    (joined? rule line lines).isSome = true ↔
      trim line ∈ rule.modifiers ∧ Declares rule (trimStart (following lines)) := by
  rw [joined?, trimStart_following]
  split
  next hmem =>
    simp only [hmem, true_and]
    split
    · simp [declares_iff hrule, hrule.declaration?_nil]
    next next after _ =>
      rw [declares_append hrule (endsLine_following after), declares_iff hrule]
      split <;> simp_all
  next hmem => simp [hmem]

/-- A modifier that is joined to a line stands alone, and the lines behind it start with a
declaration. -/
theorem declares_of_joined? {found : List Char × List (List Char)}
    (h : joined? rule line lines = some found) :
    trim line ∈ rule.modifiers ∧ Declares rule (trimStart (following lines)) :=
  (isSome_joined?_iff hrule).1 (by rw [h]; rfl)

/-- Behind a modifier that is joined to no line, nothing is declared. -/
theorem not_declares_of_joined? (h : joined? rule line lines = none)
    (hmem : trim line ∈ rule.modifiers) : ¬ Declares rule (trimStart (following lines)) := by
  intro hdeclares
  have hjoined := (isSome_joined?_iff hrule).2 ⟨hmem, hdeclares⟩
  rw [h] at hjoined
  cases hjoined

/-- Removing modifiers from a text removes them from its lines. -/
theorem stripFrom_following (hlines : ∀ line ∈ lines, '\n' ∉ line) (atStart : Bool) :
    stripFrom rule atStart (following lines) = following (stripLines rule lines) := by
  fun_induction stripLines rule lines generalizing atStart with
  | case1 => rw [following, List.flatMap_nil, stripFrom]
  | case2 line lines joined after hjoined ih =>
    obtain ⟨-, hlines⟩ := List.forall_mem_cons.1 hlines
    obtain ⟨hmem, next, hdrop, hdeclares, rfl⟩ := exists_of_joined? hjoined
    have hsublist : ∀ other ∈ next :: after, '\n' ∉ other := fun other hother =>
      hlines other ((List.dropWhile_suffix isBlankLine).subset (hdrop ▸ hother))
    obtain ⟨hnext, hafter⟩ := List.forall_mem_cons.1 hsublist
    obtain ⟨⟨kind, rest⟩, hkind⟩ := Option.isSome_iff_exists.1 hdeclares
    obtain ⟨-, -, hstart⟩ := (declaration?_eq_some_iff hrule).1 hkind
    have hread : declaration? rule (trimStart (following lines)) =
        some (kind, rest ++ following after) := by
      rw [trimStart_following, hdrop]
      dsimp only
      rw [declaration?_append hrule (endsLine_following after), hkind]
      rfl
    have hrest : '\n' ∉ rest := fun hmem =>
      newline_not_mem_trimStart hnext (hstart ▸ List.mem_append_right kind hmem)
    rw [following_cons, following_cons, stripFrom_newline,
      stripFrom_append_of_mem hrule hmem (endsLine_following lines) hread,
      stripFrom_false_append hrest, ih hafter, hstart]
    simp only [List.append_assoc]
  | case3 line lines hjoined ih =>
    obtain ⟨hline, hlines⟩ := List.forall_mem_cons.1 hlines
    rw [following_cons, following_cons, stripFrom_newline,
      stripFrom_append hrule hline (endsLine_following lines)
        (not_declares_of_joined? hrule hjoined), ih hlines]

/-- A line stays one. -/
theorem newline_not_mem_stripLine (hline : '\n' ∉ line) : '\n' ∉ stripLine rule line := by
  rw [stripLine]
  split
  next kind rest hread =>
    obtain ⟨word, hword, blanks, -, -, hkind, -, -⟩ := (modified?_eq_some_iff hrule).1 hread
    refine newline_not_mem_indentation_append hline ?_
    rw [List.mem_append, not_or]
    exact ⟨(hrule.solid_kind hkind).newline_not_mem,
      newline_not_mem_of_modified? hrule (newline_not_mem_trimStart hline) hread⟩
  next => exact hline

/-- Lines stay lines. -/
theorem newline_not_mem_stripLines (hlines : ∀ line ∈ lines, '\n' ∉ line) :
    ∀ line ∈ stripLines rule lines, '\n' ∉ line := by
  fun_induction stripLines rule lines with
  | case1 => exact hlines
  | case2 line lines joined after hjoined ih =>
    obtain ⟨hline, hlines⟩ := List.forall_mem_cons.1 hlines
    obtain ⟨-, next, hdrop, -, rfl⟩ := exists_of_joined? hjoined
    have hsuffix : next :: after <:+ lines := hdrop ▸ List.dropWhile_suffix isBlankLine
    refine List.forall_mem_cons.2 ⟨?_, ih fun line hmem =>
      hlines line (hsuffix.subset (List.mem_cons_of_mem next hmem))⟩
    exact newline_not_mem_indentation_append hline
      (newline_not_mem_trimStart (hlines next (hsuffix.subset List.mem_cons_self)))
  | case3 line lines _ ih =>
    obtain ⟨hline, hlines⟩ := List.forall_mem_cons.1 hlines
    exact List.forall_mem_cons.2 ⟨newline_not_mem_stripLine hrule hline, ih hlines⟩

end Direct

/-- There is no line if there was none. -/
theorem stripLines_eq_nil_iff : stripLines rule lines = [] ↔ lines = [] := by
  fun_cases stripLines rule lines <;> simp

section Direct

variable (hrule : rule.IsDirect)

include hrule

/-- Lines are stripped as the text that they make. -/
theorem stripVisibility_joinLines (hlines : ∀ line ∈ lines, '\n' ∉ line) :
    stripVisibility rule (joinLines lines) = joinLines (stripLines rule lines) := by
  have hfollowing : ∀ lines ≠ [], following lines = '\n' :: joinLines lines := by
    intro lines hne
    obtain ⟨line, lines, rfl⟩ := List.exists_cons_of_ne_nil hne
    rw [following_cons, joinLines_cons]
  by_cases hne : lines = []
  · subst hne
    rw [stripVisibility, joinLines, joinWith, stripFrom, stripLines]
    rfl
  · have hstrip := stripFrom_following hrule hlines true
    rw [hfollowing _ hne, hfollowing _ (mt stripLines_eq_nil_iff.1 hne),
      stripFrom_newline] at hstrip
    exact (List.cons.inj hstrip).2

/-- The lines of a stripped text are its stripped lines. -/
theorem splitLines_stripVisibility (hlines : ∀ line ∈ lines, '\n' ∉ line) (hne : lines ≠ []) :
    splitLines (stripVisibility rule (joinLines lines)) = stripLines rule lines := by
  rw [stripVisibility_joinLines hrule hlines, splitLines, joinLines,
    splitAt_joinWith (mt stripLines_eq_nil_iff.1 hne) (newline_not_mem_stripLines hrule hlines)]

end Direct

end SnippetCheck.Source
