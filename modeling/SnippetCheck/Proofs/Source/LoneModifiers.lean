import SnippetCheck.Proofs.Source.StrippedLines

/-!
# Modifiers Alone On A Line

Whether stripping keeps the lines of a text apart, and whether it is done after one pass, depends
on the modifiers that stand alone on a line above a declaration (`Above`). If none does, each line
is stripped alone, and if one does, a line is lost (`length_stripLines`, `stripLines_eq_map`). No
line that is left has a modifier in front of a declaration on it
(`not_startsModified_of_mem_stripLines`), and a second pass finds something to strip just where a
modifier stood alone above a declaration with a modifier of its own
(`stripVisibility_stripVisibility_iff`).
-/

namespace SnippetCheck.Source

open Text Document

variable {rule : VisibilityRule} {s line : List Char} {lines : List (List Char)}

/-! ## Lines that are lost -/

/-- A modifier stands alone on a line, and what is declared behind it starts on a later line. -/
def Above (rule : VisibilityRule) (starts : List Char → Prop) (lines : List (List Char)) : Prop :=
  ∃ before line after, lines = before ++ line :: after ∧ trim line ∈ rule.modifiers ∧
    starts (trimStart (joinLines after))

variable {starts : List Char → Prop}

/-- No modifier stands in no lines. -/
theorem not_above_nil : ¬ Above rule starts [] := by
  rintro ⟨before, line, after, heq, -⟩
  simp at heq

/-- A modifier stands on the first line or on a later one. -/
theorem above_cons : Above rule starts (line :: lines) ↔
    (trim line ∈ rule.modifiers ∧ starts (trimStart (following lines))) ∨
      Above rule starts lines := by
  have hstart (lines : List (List Char)) :
      trimStart (joinLines lines) = trimStart (following lines) := by
    cases lines with
    | nil => rfl
    | cons line lines => rw [joinLines_cons]; rfl
  rw [← hstart]
  constructor
  · rintro ⟨_ | ⟨first, before⟩, modifier, after, heq, hmem, hafter⟩
    · cases heq
      exact .inl ⟨hmem, hafter⟩
    · cases heq
      exact .inr ⟨before, modifier, after, rfl, hmem, hafter⟩
  · rintro (⟨hmem, hafter⟩ | ⟨before, modifier, after, rfl, hmem, hafter⟩)
    · exact ⟨[], line, lines, rfl, hmem, hafter⟩
    · exact ⟨line :: before, modifier, after, rfl, hmem, hafter⟩

section Direct

variable (hrule : rule.IsDirect)

include hrule

/-- A line is lost just where a modifier stands alone above a declaration. -/
theorem length_stripLines (lines : List (List Char)) :
    (stripLines rule lines).length ≤ lines.length ∧
      ((stripLines rule lines).length = lines.length ↔ ¬ Above rule (Declares rule) lines) := by
  fun_induction stripLines rule lines with
  | case1 => simpa using not_above_nil
  | case2 line lines joined after hjoined ih =>
    have hlt := length_lt_of_joined? hjoined
    have habove : Above rule (Declares rule) (line :: lines) :=
      above_cons.2 (.inl (declares_of_joined? hrule hjoined))
    have hle := ih.1
    simp only [habove, not_true_eq_false, iff_false, List.length_cons]
    omega
  | case3 line lines hjoined ih =>
    rw [above_cons, or_iff_right fun h => not_declares_of_joined? hrule hjoined h.1 h.2, ← ih.2]
    simpa using ih.1

/-- Where no modifier stands alone above a declaration, each line is stripped alone. -/
theorem stripLines_eq_map (h : ¬ Above rule (Declares rule) lines) :
    stripLines rule lines = lines.map (stripLine rule) := by
  fun_induction stripLines rule lines with
  | case1 => rfl
  | case2 line lines joined after hjoined ih =>
    exact absurd (above_cons.2 (.inl (declares_of_joined? hrule hjoined))) h
  | case3 line lines hjoined ih =>
    rw [ih (mt (fun habove => above_cons.2 (.inr habove)) h), List.map_cons]

/-! ## Stripping once more -/

/-- Behind the indentation of another line, a declaration is the start of its line. -/
theorem Declares.trimStart_indentation_append (h : Declares rule s) (line : List Char) :
    trimStart (line.takeWhile isBlank ++ s) = s := by
  rw [trimStart, List.dropWhile_append_of_pos fun c hc => List.mem_takeWhile_imp hc, ← trimStart,
    h.trimStart_eq hrule]

/-- A line that starts modified is stripped to one that declares a type, and another line stays. -/
theorem stripLine_cases (line : List Char) :
    (StartsModified rule (trimStart line) ∧ Declares rule (trimStart (stripLine rule line))) ∨
      (¬ StartsModified rule (trimStart line) ∧ stripLine rule line = line) := by
  rw [startsModified_iff hrule, stripLine]
  cases hread : modified? rule (trimStart line) with
  | none => exact .inr ⟨by simp, rfl⟩
  | some read =>
    obtain ⟨kind, rest⟩ := read
    obtain ⟨-, -, -, -, -, hkind, hrest, -⟩ := (modified?_eq_some_iff hrule).1 hread
    have hdeclares : Declares rule (kind ++ rest) := .kind hkind hrest
    refine .inl ⟨rfl, ?_⟩
    dsimp only
    rwa [hdeclares.trimStart_indentation_append hrule]

/-- A joined line declares a type. -/
theorem declares_joined {joined : List Char} {after : List (List Char)}
    (h : joined? rule line lines = some (joined, after)) : Declares rule (trimStart joined) := by
  obtain ⟨-, next, -, hdeclares, rfl⟩ := exists_of_joined? h
  have hnext := (declares_iff hrule).2 hdeclares
  rwa [hnext.trimStart_indentation_append hrule]

/-- No stripped line starts with a modifier in front of a declaration. -/
theorem not_startsModified_of_mem_stripLines :
    ∀ line ∈ stripLines rule lines, ¬ StartsModified rule (trimStart line) := by
  fun_induction stripLines rule lines with
  | case1 => exact fun line hmem => absurd hmem List.not_mem_nil
  | case2 line lines joined after hjoined ih =>
    exact List.forall_mem_cons.2 ⟨(declares_joined hrule hjoined).not_startsModified hrule, ih⟩
  | case3 line lines _ ih =>
    refine List.forall_mem_cons.2 ⟨?_, ih⟩
    rcases stripLine_cases hrule line with ⟨-, hdeclares⟩ | ⟨hnot, heq⟩
    · exact hdeclares.not_startsModified hrule
    · rwa [heq]

/-- A stripped line declares a type where the line does or starts modified. -/
theorem declares_stripLine_iff :
    Declares rule (trimStart (stripLine rule line)) ↔
      Declares rule (trimStart line) ∨ StartsModified rule (trimStart line) := by
  rcases stripLine_cases hrule line with ⟨hmodified, hdeclares⟩ | ⟨hnot, heq⟩
  · exact iff_of_true hdeclares (.inr hmodified)
  · rw [heq, or_iff_left hnot]

/-- A stripped line is blank if the line was. -/
theorem trimStart_stripLine_eq_nil_iff :
    trimStart (stripLine rule line) = [] ↔ trimStart line = [] := by
  rcases stripLine_cases hrule line with ⟨hmodified, hdeclares⟩ | ⟨-, heq⟩
  · exact iff_of_false (hdeclares.ne_nil hrule) hmodified.ne_nil
  · rw [heq]

/-- A stripped line is a modifier alone if the line was one. -/
theorem trim_stripLine_mem_iff :
    trim (stripLine rule line) ∈ rule.modifiers ↔ trim line ∈ rule.modifiers := by
  rcases stripLine_cases hrule line with ⟨hmodified, hdeclares⟩ | ⟨-, heq⟩
  · exact iff_of_false (hdeclares.trimEnd_not_mem hrule) (hmodified.trimEnd_not_mem hrule)
  · rw [heq]

/-- A blank line is no modifier. -/
theorem trim_not_mem_of_isBlankLine (h : isBlankLine line = true) : trim line ∉ rule.modifiers := by
  intro hmem
  rw [trim, isBlankLine_iff.1 h] at hmem
  exact (hrule.solid_modifier hmem).ne_nil rfl

/-- Modifiers stand alone on lines that are not blank. -/
theorem above_dropWhile :
    Above rule starts (lines.dropWhile isBlankLine) ↔ Above rule starts lines := by
  induction lines with
  | nil => rfl
  | cons line lines ih =>
    rw [List.dropWhile_cons]
    split
    next hblank =>
      rw [ih, above_cons,
        or_iff_right fun h => trim_not_mem_of_isBlankLine hrule hblank h.1]
    next => rfl

/-- The stripped lines start with a declaration where the lines start with one or with a modifier of
one. -/
theorem declares_following_stripLines (lines : List (List Char)) :
    Declares rule (trimStart (following (stripLines rule lines))) ↔
      Declares rule (trimStart (following lines)) ∨
        StartsModified rule (trimStart (following lines)) := by
  fun_induction stripLines rule lines with
  | case1 => exact (or_iff_left fun h => h.ne_nil rfl).symm
  | case2 line lines joined after hjoined ih =>
    -- the modifier stands in front of the declaration that it is joined to
    have hdeclares := declares_joined hrule hjoined
    obtain ⟨hmem, hfollowing⟩ := declares_of_joined? hrule hjoined
    have hsome : trimStart line ≠ [] := fun hnil =>
      trim_not_mem_of_isBlankLine hrule (isBlankLine_iff.2 hnil) hmem
    rw [trimStart_following_cons (hdeclares.ne_nil hrule), trimStart_following_cons hsome,
      declares_append hrule (endsLine_following _),
      startsModified_append_of_mem hrule hmem (endsLine_following lines)]
    exact iff_of_true hdeclares (.inr hfollowing)
  | case3 line lines hjoined ih =>
    by_cases hnil : trimStart line = []
    · -- a blank line stays one, and what starts the text comes after it
      have hblank := isBlankLine_iff.2 hnil
      have hstripped := isBlankLine_iff.2 ((trimStart_stripLine_eq_nil_iff hrule).2 hnil)
      rw [trimStart_following_of_blank hstripped, trimStart_following_of_blank hblank, ih]
    · rw [trimStart_following_cons (mt (trimStart_stripLine_eq_nil_iff hrule).1 hnil),
        trimStart_following_cons hnil, declares_append hrule (endsLine_following _),
        declares_append hrule (endsLine_following _),
        startsModified_append hrule (not_declares_of_joined? hrule hjoined)
          (endsLine_following lines), declares_stripLine_iff hrule]

/-- A modifier is left alone above a declaration just where it stood above one with a modifier of
its own. -/
theorem above_stripLines (lines : List (List Char)) :
    Above rule (Declares rule) (stripLines rule lines) ↔
      Above rule (StartsModified rule) lines := by
  fun_induction stripLines rule lines with
  | case1 => exact iff_of_false not_above_nil not_above_nil
  | case2 line lines joined after hjoined ih =>
    -- the modifier, the declaration and the blank lines between leave no modifier alone
    obtain ⟨hmem, next, hdrop, hnext, -⟩ := exists_of_joined? hjoined
    have hdeclares := (declares_of_joined? hrule hjoined).2
    have hafter : Above rule (StartsModified rule) lines ↔
        Above rule (StartsModified rule) after := by
      rw [← above_dropWhile hrule, hdrop, above_cons,
        or_iff_right fun h => ((declares_iff hrule).2 hnext).trimEnd_not_mem hrule h.1]
    rw [above_cons, or_iff_right fun h => (declares_joined hrule hjoined).trimEnd_not_mem hrule h.1,
      ih, above_cons, or_iff_right fun h => hdeclares.not_startsModified hrule h.2, hafter]
  | case3 line lines hjoined ih =>
    have hnot := not_declares_of_joined? hrule hjoined
    rw [above_cons, above_cons, ih, trim_stripLine_mem_iff hrule,
      declares_following_stripLines hrule]
    tauto

/-- Stripping once more changes nothing unless a modifier stood alone above a declaration with a
modifier of its own. -/
theorem stripVisibility_stripVisibility_iff (hlines : ∀ line ∈ lines, '\n' ∉ line) :
    stripVisibility rule (stripVisibility rule (joinLines lines)) =
        stripVisibility rule (joinLines lines) ↔
      ¬ Above rule (StartsModified rule) lines := by
  have hstripped := newline_not_mem_stripLines hrule hlines
  rw [stripVisibility_joinLines hrule hlines, stripVisibility_joinLines hrule hstripped,
    ← above_stripLines hrule]
  constructor
  · intro heq habove
    have hne : stripLines rule lines ≠ [] := fun hnil => not_above_nil (hnil ▸ habove)
    have hsplit := congrArg splitLines heq
    rw [splitLines, splitLines, joinLines, joinLines, splitAt_joinWith hne hstripped,
      splitAt_joinWith (mt stripLines_eq_nil_iff.1 hne)
        (newline_not_mem_stripLines hrule hstripped)] at hsplit
    exact (length_stripLines hrule _).2.1 (congrArg List.length hsplit) habove
  · intro habove
    have hstay : ∀ line ∈ stripLines rule lines, stripLine rule line = line := by
      intro line hmem
      have hnot := not_startsModified_of_mem_stripLines hrule line hmem
      exact ((stripLine_cases hrule line).resolve_left fun h => hnot h.1).2
    rw [stripLines_eq_map hrule habove, List.map_congr_left hstay, List.map_id']

end Direct

end SnippetCheck.Source
