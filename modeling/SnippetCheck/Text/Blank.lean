/-!
# Blank Characters

Blank characters are those with the Unicode property White_Space. Trimming removes them
from the ends of a text. The operations are defined on `List Char`; those on `String` read
their argument as its list of characters.
-/

namespace SnippetCheck.Text

/-- Whether a character has the property White_Space. -/
def isBlank (c : Char) : Bool :=
  c == ' ' || ('\t' ≤ c && c ≤ '\r') || c == '\u0085' || c == '\u00a0' || c == '\u1680' ||
    ('\u2000' ≤ c && c ≤ '\u200a') || c == '\u2028' || c == '\u2029' || c == '\u202f' ||
    c == '\u205f' || c == '\u3000'

/-- Remove the leading blanks. -/
def trimStart (s : List Char) : List Char :=
  s.dropWhile isBlank

/-- Remove the trailing blanks. -/
def trimEnd (s : List Char) : List Char :=
  (trimStart s.reverse).reverse

/-- Remove the blanks at both ends. -/
def trim (s : List Char) : List Char :=
  trimEnd (trimStart s)

/-- Remove the blanks at both ends of a string. -/
def trimmed (s : String) : String :=
  String.ofList (trim s.toList)

/-- The line feed is blank. -/
@[simp]
theorem isBlank_newline : isBlank '\n' = true := by decide

/-- Trimming the end removes a run of blanks from it. -/
theorem exists_eq_trimEnd_append (s : List Char) :
    ∃ t, s = trimEnd s ++ t ∧ ∀ c ∈ t, isBlank c = true := by
  refine ⟨(s.reverse.takeWhile isBlank).reverse, ?_, ?_⟩
  · rw [trimEnd, trimStart, ← List.reverse_append, List.takeWhile_append_dropWhile,
      List.reverse_reverse]
  · intro c hc
    exact List.all_eq_true.1 List.all_takeWhile c (List.mem_reverse.1 hc)

/-- Blanks in front of a text are trimmed. -/
theorem trim_append_left {blanks : List Char} (h : ∀ c ∈ blanks, isBlank c = true)
    (s : List Char) : trim (blanks ++ s) = trim s := by
  rw [trim, trim, trimStart, trimStart, List.dropWhile_append_of_pos h]

/-- Blanks behind a text are trimmed off its end. -/
theorem trimEnd_append_right {blanks : List Char} (h : ∀ c ∈ blanks, isBlank c = true)
    (s : List Char) : trimEnd (s ++ blanks) = trimEnd s := by
  rw [trimEnd, trimEnd, List.reverse_append, trimStart, trimStart, List.dropWhile_append_of_pos]
  exact fun c hc => h c (List.mem_reverse.1 hc)

/-- Blanks behind a text are trimmed. -/
theorem trim_append_right {blanks : List Char} (h : ∀ c ∈ blanks, isBlank c = true)
    (s : List Char) : trim (s ++ blanks) = trim s := by
  rw [trim, trim, trimStart, List.dropWhile_append]
  split
  next hnone =>
    -- nothing but blanks stands in front of the blanks
    have hblanks : blanks.dropWhile isBlank = [] := by
      rw [← List.append_nil blanks, List.dropWhile_append_of_pos h, List.dropWhile_nil]
    rw [trimStart, List.isEmpty_iff.1 hnone, hblanks]
  next => exact trimEnd_append_right h _

/-- A text is what trimming leaves of it, between blanks. -/
theorem exists_eq_append_trim (s : List Char) :
    ∃ front back, s = front ++ (trim s ++ back) ∧ (∀ c ∈ front, isBlank c = true) ∧
      ∀ c ∈ back, isBlank c = true := by
  obtain ⟨back, heq, hback⟩ := exists_eq_trimEnd_append (trimStart s)
  refine ⟨s.takeWhile isBlank, back, ?_, List.all_eq_true.1 List.all_takeWhile, hback⟩
  rw [trim, ← heq, trimStart, List.takeWhile_append_dropWhile]

/-- What is trimmed stays as it is when it is trimmed again. -/
@[simp]
theorem trim_trim (s : List Char) : trim (trim s) = trim s := by
  obtain ⟨front, back, heq, hfront, hback⟩ := exists_eq_append_trim s
  calc trim (trim s) = trim (front ++ (trim s ++ back)) := by
        rw [trim_append_left hfront, trim_append_right hback]
    _ = trim s := by rw [← heq]

end SnippetCheck.Text
