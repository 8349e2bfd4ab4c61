import SnippetCheck.Snippet
import SnippetCheck.Text.Blank

/-!
# Documents And Their Blocks

A block of a tag opens with three backticks, the tag, and blanks that reach a line end; it
closes at the next three backticks. The blocks of a document are found from left to right,
each search starting where the last block ended. A block's text loses its trailing blanks
and the marks of its hidden lines, and a block that is only an ellipsis is no snippet.

The search ends because a block is never empty: what follows it is shorter than the text that it
starts (`length_lt_of_block?`).
-/

namespace SnippetCheck.Document

open SnippetCheck.Text

/-- What delimits a block. -/
def ticks : List Char := ['`', '`', '`']

/-- What follows `lead`, if a text starts with it. -/
def after? (lead : List Char) (s : List Char) : Option (List Char) :=
  if lead.isPrefixOf s then some (s.drop lead.length) else none

/-- What follows the last line feed of the leading blanks, if they hold one. -/
def afterInfo? : List Char → Option (List Char)
  | [] => none
  | c :: s =>
    if isBlank c then
      match afterInfo? s with
      | some rest => some rest
      | none => if c = '\n' then some s else none
    else none

/-- The text before the first delimiter and the text after it. -/
def untilTicks? : List Char → Option (List Char × List Char)
  | [] => none
  | c :: s =>
    match after? ticks (c :: s) with
    | some rest => some ([], rest)
    | none => (untilTicks? s).map fun (body, rest) => (c :: body, rest)

/-- The body of the block that starts a text and what follows the block. -/
def block? (tag : List Char) (s : List Char) : Option (List Char × List Char) :=
  (after? (ticks ++ tag) s).bind fun s => (afterInfo? s).bind untilTicks?

/-- What follows a leading text is shorter by its length. -/
theorem length_le_of_after? {lead s rest : List Char} (h : after? lead s = some rest) :
    rest.length = s.length - lead.length := by
  simp only [after?] at h
  split at h
  · cases h; simp
  · cases h

/-- What follows an info line is shorter. -/
theorem length_lt_of_afterInfo? {s rest : List Char} (h : afterInfo? s = some rest) :
    rest.length < s.length := by
  fun_induction afterInfo? s <;> simp_all
  all_goals omega

/-- What follows a closing delimiter is shorter. -/
theorem length_lt_of_untilTicks? {s body rest : List Char}
    (h : untilTicks? s = some (body, rest)) : rest.length < s.length := by
  induction s generalizing body with
  | nil => simp [untilTicks?] at h
  | cons c s ih =>
    simp only [untilTicks?] at h
    split at h
    next hafter =>
      cases h
      -- the delimiter itself is what the rest is shorter by
      have := length_le_of_after? hafter
      simp only [ticks, List.length_cons, List.length_nil] at this ⊢
      omega
    next =>
      -- one character of the body is taken, and the rest is the tail's
      obtain ⟨⟨b, r⟩, hs, heq⟩ := Option.map_eq_some_iff.1 h
      simp only [Prod.mk.injEq] at heq
      obtain ⟨_, rfl⟩ := heq
      have := ih hs
      simp only [List.length_cons]
      omega

/-- A block is never empty: what follows it is shorter than the text it starts. -/
theorem length_lt_of_block? {tag s body rest : List Char}
    (h : block? tag s = some (body, rest)) : rest.length < s.length := by
  simp only [block?, Option.bind_eq_some_iff] at h
  -- no step leaves more than it was given, and the last two leave less
  obtain ⟨s₁, h₁, s₂, h₂, h₃⟩ := h
  have := length_le_of_after? h₁
  have := length_lt_of_afterInfo? h₂
  have := length_lt_of_untilTicks? h₃
  omega

/-- The bodies of the blocks of a tag, in order. -/
def bodies (tag : List Char) (s : List Char) : List (List Char) :=
  match _h : block? tag s with
  | some (body, rest) => body :: bodies tag rest
  | none =>
    match s with
    | [] => []
    | _ :: s => bodies tag s
termination_by s.length
decreasing_by
  · exact length_lt_of_block? ‹_›
  · simp

/-- A line without the mark that hides it: one leading number sign and one space after it. -/
def restoreLine : List Char → List Char
  | '#' :: ' ' :: line => line
  | '#' :: line => line
  | line => line

/-- A text with the marks of its hidden lines removed. -/
def restoreHidden (s : List Char) : List Char :=
  joinLines ((splitLines s).map restoreLine)

/-- Whether a text is an ellipsis and nothing else but blanks. -/
def isEllipsis (s : List Char) : Bool :=
  trim s = ['.', '.', '.']

/-- The contents of the retained blocks of a tag, in order. -/
def contents (tag : List Char) (s : List Char) : List (List Char) :=
  ((bodies tag s).map fun body => restoreHidden (trimEnd body)).filter
    fun content => !isEllipsis content

/-- The snippets of a document: its retained blocks, numbered from zero. -/
def snippets (tag file text : String) : List Snippet :=
  (contents tag.toList text.toList).zipIdx.map fun (content, index) =>
    Snippet.new file index (String.ofList content)

end SnippetCheck.Document
