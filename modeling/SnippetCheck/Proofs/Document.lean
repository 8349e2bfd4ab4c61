import Mathlib.Data.List.Forall2
import SnippetCheck.Document
import SnippetCheck.Language
import SnippetCheck.Proofs.Text.Lines

/-!
# Documents As They Are Written

A manuscript is prose and fenced blocks in turn (`Manuscript`). Its text is scanned from left to
right: prose holds no block, a block of another language is passed over with its closing fence
(`bodies_skip`), and a block of the tag gives its body without the blank lines in front
(`block?_fence`). So the snippets of a manuscript are its retained blocks, in order, and nothing
else of it matters (`snippets_of_manuscript`).
-/

namespace SnippetCheck.Document

open SnippetCheck.Text

/-! ## Manuscripts -/

/-- Whether a line holds nothing but blanks. -/
def isBlankLine (line : List Char) : Bool :=
  line.all isBlank

/-- A fenced block as an author writes it. -/
structure Fenced where
  /-- What follows the opening fence on its line. -/
  info : List Char
  /-- The lines between the fences. -/
  body : List Char
  deriving DecidableEq, Repr

namespace Fenced

/-- The text of a block. -/
def text (block : Fenced) : List Char :=
  ticks ++ (block.info ++ '\n' :: (block.body ++ '\n' :: ticks))

/-- The info of a block is a tag and blanks only. -/
def HasTag (tag : List Char) (block : Fenced) : Prop :=
  tag <+: block.info ∧ ∀ c ∈ block.info.drop tag.length, isBlank c = true

instance (tag : List Char) (block : Fenced) : Decidable (block.HasTag tag) :=
  decidable_of_iff (tag <+: block.info ∧ (block.info.drop tag.length).all isBlank = true)
    (and_congr_right fun _ => List.all_eq_true)

/-- A block that can be told from its text: its info is one line without backticks, and its body
holds no fence. -/
structure IsProper (block : Fenced) : Prop where
  one_line : '\n' ∉ block.info
  no_tick : '`' ∉ block.info
  no_fence : ¬ ticks <:+: block.body

/-- The body of a block without the blank lines in front. -/
def trimmedBody (block : Fenced) : List Char :=
  joinLines ((splitLines block.body).dropWhile isBlankLine)

/-- The content of a block: its body without the blank lines in front, without blanks at the end,
and without the marks of its hidden lines. -/
def content (block : Fenced) : List Char :=
  restoreHidden (trimEnd block.trimmedBody)

end Fenced

/-- A document as an author writes it: prose, and blocks with the prose that follows each. -/
structure Manuscript where
  /-- The prose in front of the first block. -/
  opening : List Char
  /-- The blocks, each with what stands between it and the next one. -/
  parts : List (Fenced × List Char)
  deriving DecidableEq, Repr

/-- The text of some blocks and of the prose that follows each. -/
def textOfParts : List (Fenced × List Char) → List Char
  | [] => []
  | (block, prose) :: parts => block.text ++ (prose ++ textOfParts parts)

/-- Blocks and prose that can be told apart: no prose holds a fence, and the prose after a block
starts on a new line. Only the last block may have none. -/
inductive AreProper : List (Fenced × List Char) → Prop
  | nil : AreProper []
  | last {block : Fenced} (hblock : block.IsProper) : AreProper [(block, [])]
  | cons {block : Fenced} {prose : List Char} {parts : List (Fenced × List Char)}
      (hblock : block.IsProper) (hprose : ¬ ticks <:+: '\n' :: prose) (hparts : AreProper parts) :
      AreProper ((block, '\n' :: prose) :: parts)

namespace Manuscript

/-- The text of a manuscript. -/
def text (manuscript : Manuscript) : List Char :=
  manuscript.opening ++ textOfParts manuscript.parts

/-- A manuscript whose blocks can be told from its prose. -/
structure IsProper (manuscript : Manuscript) : Prop where
  opening : ¬ ticks <:+: manuscript.opening
  parts : AreProper manuscript.parts

/-- The blocks of a tag that are more than an ellipsis. -/
def retained (tag : List Char) (manuscript : Manuscript) : List Fenced :=
  (manuscript.parts.map Prod.fst).filter fun block =>
    block.HasTag tag && !isEllipsis block.content

end Manuscript

/-- What becomes of a line: a hidden line loses the number sign in front and at most one space after
it, and any other stays as it is. -/
inductive Restores : List Char → List Char → Prop
  | plain {line : List Char} (h : line.head? ≠ some '#') : Restores line line
  | hidden {line : List Char} (h : line.head? ≠ some ' ') : Restores ('#' :: line) line
  | spaced {line : List Char} : Restores ('#' :: ' ' :: line) line

/-! ## Scanning -/

/-- A tag that no fence and no blank can be part of. -/
structure IsTag (tag : List Char) : Prop where
  ne_nil : tag ≠ []
  no_tick : '`' ∉ tag
  no_blank : ∀ c ∈ tag, isBlank c = false

/-- The tags of the languages are tags. -/
theorem isTag (language : Language) : IsTag language.tag.toList where
  ne_nil := by cases language <;> decide
  no_tick := by cases language <;> decide
  no_blank := by
    have hall : language.tag.toList.all (fun c => !isBlank c) = true := by
      cases language <;> decide
    simpa using hall

variable {tag s t : List Char}

/-- A text that starts with another one is followed by the rest. -/
theorem after?_eq_some {lead rest : List Char} :
    after? lead s = some rest ↔ s = lead ++ rest := by
  unfold after?
  constructor
  · intro h
    split at h
    next hlead =>
      obtain ⟨_, rfl⟩ := List.isPrefixOf_iff_prefix.1 hlead
      rw [List.drop_left, Option.some.injEq] at h
      rw [h]
    next => cases h
  · rintro rfl
    simp

/-- A text that does not start with another one is not followed by anything. -/
theorem after?_eq_none {lead : List Char} : after? lead s = none ↔ ¬ lead <+: s := by
  rw [Option.eq_none_iff_forall_ne_some]
  simp only [ne_eq, after?_eq_some, ← not_exists]
  exact not_congr ⟨fun ⟨rest, h⟩ => ⟨rest, h.symm⟩, fun ⟨rest, h⟩ => ⟨rest, h.symm⟩⟩

/-- Where no block starts, the scan goes on with the next character. -/
theorem bodies_cons {c : Char} (h : block? tag (c :: s) = none) :
    bodies tag (c :: s) = bodies tag s := by
  rw [bodies]
  split
  next heq => rw [h] at heq; cases heq
  next => rfl

/-- Where a block starts, the scan goes on after it. -/
theorem bodies_of_block? {body : List Char} (h : block? tag s = some (body, t)) :
    bodies tag s = body :: bodies tag t := by
  rw [bodies]
  split
  next heq =>
    rw [h] at heq
    cases heq
    rfl
  next heq => rw [h] at heq; cases heq

/-- No block starts where the fence and the tag do not. -/
theorem block?_eq_none (h : ¬ ticks ++ tag <+: s) : block? tag s = none := by
  rw [block?, after?_eq_none.2 h, Option.bind_none]

/-- There is no block in an empty text. -/
theorem bodies_nil (tag : List Char) : bodies tag [] = [] := by
  rw [bodies]
  split
  next heq =>
    rw [block?_eq_none (by simp [ticks])] at heq
    cases heq
  next => rfl

/-! ## Passing over prose and fences -/

/-- A word that a character is not part of stands on one side of it. -/
theorem infix_append_cons {word : List Char} {c : Char} (hc : c ∉ word)
    (h : word <:+: s ++ c :: t) : word <:+: s ∨ word <:+: t := by
  obtain ⟨before, after, heq⟩ := h
  rcases List.append_eq_append_iff.1 heq with ⟨rest, rfl, -⟩ | ⟨rest, hword, hrest⟩
  · exact .inl ⟨before, rest, rfl⟩
  cases rest with
  | nil => exact .inl ⟨before, [], by simpa using hword⟩
  | cons first rest =>
    obtain ⟨rfl, rfl⟩ := List.cons.inj hrest
    rcases List.append_eq_append_iff.1 hword with ⟨inner, -, rfl⟩ | ⟨inner, -, hinner⟩
    · -- the character would be in the word
      exact absurd (List.mem_append_right _ List.mem_cons_self) hc
    · cases inner with
      | nil => exact absurd (by simp [← show c :: rest = word by simpa using hinner]) hc
      | cons first inner =>
        obtain ⟨-, rfl⟩ := List.cons.inj hinner
        exact .inr ⟨inner, after, by simp⟩

/-- Texts without a fence have none when a line feed stands between them. -/
theorem not_fence_append (hs : ¬ ticks <:+: s) (ht : ¬ ticks <:+: t) :
    ¬ ticks <:+: s ++ '\n' :: t :=
  fun h => (infix_append_cons (by decide) h).elim hs ht

/-- A text without backticks has no fence. -/
theorem not_fence_of_no_tick (h : '`' ∉ s) : ¬ ticks <:+: s :=
  fun hfence => h (hfence.subset (by simp [ticks]))

/-- What a scan can go on with after prose: the end, or a fence. -/
def AtFence (s : List Char) : Prop :=
  s = [] ∨ ticks <+: s

/-- A fence that starts no block is passed over. -/
private theorem bodies_skip_fence (h : block? tag (ticks ++ s) = none) (hs : s.head? ≠ some '`') :
    bodies tag (ticks ++ s) = bodies tag s := by
  have hsecond : block? tag ('`' :: '`' :: s) = none :=
    block?_eq_none (by cases s <;> simp_all [ticks, eq_comm])
  have hthird : block? tag ('`' :: s) = none :=
    block?_eq_none (by cases s <;> simp_all [ticks, eq_comm])
  calc
    bodies tag (ticks ++ s) = bodies tag ('`' :: '`' :: s) := bodies_cons h
    _ = bodies tag ('`' :: s) := bodies_cons hsecond
    _ = bodies tag s := bodies_cons hthird

section Prose

variable (htag : IsTag tag)
include htag

/-- No block starts within prose, even if the prose ends in backticks. -/
private theorem not_prefix_prose {c : Char} (hs : ¬ ticks <:+: c :: s) (ht : AtFence t) :
    ¬ ticks ++ tag <+: c :: (s ++ t) := by
  obtain ⟨first, rest, rfl⟩ := List.exists_cons_of_ne_nil htag.ne_nil
  have hfirst : first ≠ '`' := fun h => htag.no_tick (h ▸ List.mem_cons_self)
  rintro ⟨after, h⟩
  -- the fence does not fit into the prose, so the tag would start with a backtick
  rcases s with _ | ⟨c₁, _ | ⟨c₂, s⟩⟩
  · rcases ht with rfl | ⟨rest, rfl⟩ <;> simp_all [ticks]
  · rcases ht with rfl | ⟨rest, rfl⟩ <;> simp_all [ticks]
  · obtain ⟨rfl, rfl, rfl, -⟩ :
        '`' = c ∧ '`' = c₁ ∧ '`' = c₂ ∧ first :: (rest ++ after) = s ++ t := by
      simpa [ticks] using h
    exact hs (List.IsPrefix.isInfix ⟨s, rfl⟩)

/-- Prose is passed over. -/
private theorem bodies_skip_prose (hs : ¬ ticks <:+: s) (ht : AtFence t) :
    bodies tag (s ++ t) = bodies tag t := by
  induction s with
  | nil => rfl
  | cons c s ih =>
    rw [List.cons_append, bodies_cons (block?_eq_none (not_prefix_prose htag hs ht))]
    exact ih fun h => hs (List.infix_cons h)

end Prose

/-! ## Reading a block -/

/-- Lines, each with a line feed at its end. -/
def endLines (lines : List (List Char)) : List Char :=
  lines.flatMap fun line => line ++ ['\n']

/-- Lines with a line feed between neighbours and one at the end are lines with a line feed each. -/
theorem endLines_eq {lines : List (List Char)} (h : lines ≠ []) :
    endLines lines = joinLines lines ++ ['\n'] := by
  induction lines with
  | nil => exact absurd rfl h
  | cons line lines ih =>
    cases lines with
    | nil => simp [endLines, joinLines, joinWith]
    | cons next lines =>
      have hnext := ih (List.cons_ne_nil _ _)
      have hcons : endLines (line :: next :: lines) = line ++ '\n' :: endLines (next :: lines) := by
        simp [endLines]
      rw [hcons, hnext]
      simp [joinLines, joinWith]

/-- A text with a line feed at its end is its lines with a line feed each. -/
theorem endLines_splitLines (s : List Char) : endLines (splitLines s) = s ++ ['\n'] := by
  unfold splitLines
  rw [endLines_eq (splitAt_ne_nil _ _), joinLines, joinWith_splitAt]

/-- Blanks at the end of the last line do not matter for a text without blanks at its end. -/
theorem trimEnd_endLines (lines : List (List Char)) :
    trimEnd (endLines lines) = trimEnd (joinLines lines) := by
  cases lines with
  | nil => rfl
  | cons line lines =>
    rw [endLines_eq (List.cons_ne_nil _ _)]
    simp [trimEnd, trimStart]

/-- After blanks and a line feed, the info ends there or at a later line feed among blanks. -/
private theorem afterInfo?_of_blank (hs : ∀ c ∈ s, isBlank c = true) :
    afterInfo? (s ++ '\n' :: t) = some ((afterInfo? t).getD t) := by
  induction s with
  | nil =>
    rw [List.nil_append, afterInfo?, if_pos isBlank_newline]
    cases afterInfo? t <;> rfl
  | cons c s ih =>
    obtain ⟨hc, hs⟩ := List.forall_mem_cons.1 hs
    rw [List.cons_append, afterInfo?, if_pos hc, ih hs]

/-- A character that is not blank, on the first line, is no part of an info. -/
private theorem afterInfo?_of_not_blank (hline : '\n' ∉ s) (hs : ¬ ∀ c ∈ s, isBlank c = true) :
    afterInfo? (s ++ t) = none := by
  induction s with
  | nil => exact absurd (by simp) hs
  | cons c s ih =>
    obtain ⟨hc, hrest⟩ := not_or.1 (mt List.mem_cons.2 hline)
    rw [List.cons_append, afterInfo?]
    split
    next hblank =>
      rw [ih hrest fun hall => hs (List.forall_mem_cons.2 ⟨hblank, hall⟩)]
      exact if_neg (Ne.symm hc)
    next => rfl

/-- After the line of the tag, the body starts at the first line that is not blank. -/
private theorem afterInfo?_endLines {lines : List (List Char)} (ht : afterInfo? t = none)
    (hlines : ∀ line ∈ lines, '\n' ∉ line) :
    (afterInfo? (endLines lines ++ t)).getD (endLines lines ++ t) =
      endLines (lines.dropWhile isBlankLine) ++ t := by
  induction lines with
  | nil => simp [endLines, ht]
  | cons line lines ih =>
    obtain ⟨hline, hrest⟩ := List.forall_mem_cons.1 hlines
    have hcons : endLines (line :: lines) ++ t = line ++ '\n' :: (endLines lines ++ t) := by
      simp [endLines]
    by_cases hblank : isBlankLine line = true
    · rw [hcons, afterInfo?_of_blank (List.all_eq_true.1 hblank), List.dropWhile_cons_of_pos hblank,
        Option.getD_some, ih hrest]
    · rw [List.dropWhile_cons_of_neg hblank, hcons,
        afterInfo?_of_not_blank hline fun hall => hblank (List.all_eq_true.2 hall), ← hcons,
        Option.getD_none]

/-- The body of a block ends at the first fence. -/
private theorem untilTicks?_append (hs : ¬ ticks <:+: s ++ ['`', '`']) :
    untilTicks? (s ++ (ticks ++ t)) = some (s, t) := by
  induction s with
  | nil =>
    show untilTicks? ('`' :: '`' :: '`' :: t) = _
    have hafter : after? ticks ('`' :: '`' :: '`' :: t) = some t := after?_eq_some.2 rfl
    rw [untilTicks?, hafter]
  | cons c s ih =>
    have hnone : after? ticks (c :: (s ++ (ticks ++ t))) = none := by
      refine after?_eq_none.2 fun h => hs (List.IsPrefix.isInfix ?_)
      refine List.prefix_of_prefix_length_le h ⟨'`' :: t, by simp [ticks]⟩ ?_
      simp [ticks]
    rw [List.cons_append, untilTicks?, hnone]
    dsimp only
    rw [ih fun h => hs (List.infix_cons h), Option.map_some]

namespace Fenced

variable {block : Fenced}

/-- What the scan takes for the body of a block. -/
def scannedBody (block : Fenced) : List Char :=
  endLines ((splitLines block.body).dropWhile isBlankLine)

/-- The text of a block, with what follows it. -/
theorem text_append (block : Fenced) (s : List Char) :
    block.text ++ s =
      ticks ++ (block.info ++ '\n' :: (endLines (splitLines block.body) ++ (ticks ++ s))) := by
  simp [text, endLines_splitLines]

/-- No fence ends within what the scan takes for the body of a block. -/
private theorem not_fence_scannedBody (h : block.IsProper) :
    ¬ ticks <:+: block.scannedBody ++ ['`', '`'] := by
  have hsuffix : block.scannedBody ++ ['`', '`'] <:+ block.body ++ '\n' :: ['`', '`'] := by
    obtain ⟨before, hbefore⟩ := List.dropWhile_suffix (l := splitLines block.body)
      isBlankLine
    refine ⟨endLines before, ?_⟩
    have happend := congrArg endLines hbefore
    rw [endLines_splitLines] at happend
    rw [← List.append_assoc, scannedBody, endLines, endLines, ← List.flatMap_append]
    change endLines _ ++ _ = _
    rw [happend]
    simp
  exact fun hfence => not_fence_append h.no_fence (by decide) (hfence.trans hsuffix.isInfix)

/-- A block of the tag is read as its body and what follows it. -/
theorem block?_of_hasTag (h : block.IsProper) (hblock : block.HasTag tag) (s : List Char) :
    block? tag (block.text ++ s) = some (block.scannedBody, s) := by
  obtain ⟨⟨blanks, hinfo⟩, hblanks⟩ := hblock
  rw [← hinfo, List.drop_left] at hblanks
  have hclose : afterInfo? (ticks ++ s) = none := by
    show afterInfo? ('`' :: '`' :: '`' :: s) = none
    rw [afterInfo?, if_neg (by decide)]
  have hbody : afterInfo? (blanks ++ '\n' :: (endLines (splitLines block.body) ++ (ticks ++ s))) =
      some (block.scannedBody ++ (ticks ++ s)) := by
    have hlines : ∀ line ∈ splitLines block.body, '\n' ∉ line :=
      fun _ => sep_not_mem_of_mem_splitAt
    rw [afterInfo?_of_blank hblanks, afterInfo?_endLines hclose hlines, scannedBody]
  have htext : block.text ++ s = (ticks ++ tag) ++
      (blanks ++ '\n' :: (endLines (splitLines block.body) ++ (ticks ++ s))) := by
    rw [text_append, ← hinfo]
    simp
  rw [block?, after?_eq_some.2 htext, Option.bind_some, hbody, Option.bind_some,
    untilTicks?_append (not_fence_scannedBody h)]

/-- No block of the tag starts at a block of another language. -/
theorem block?_of_not_hasTag (htag : IsTag tag) (h : block.IsProper) (hblock : ¬ block.HasTag tag)
    (s : List Char) : block? tag (block.text ++ s) = none := by
  rw [text_append]
  generalize endLines (splitLines block.body) ++ (ticks ++ s) = rest
  rw [block?]
  cases hafter : after? (ticks ++ tag) (ticks ++ (block.info ++ '\n' :: rest)) with
  | none => rfl
  | some after =>
    have htext := after?_eq_some.1 hafter
    rw [List.append_assoc, List.append_cancel_left_eq] at htext
    -- the tag ends before the line of the fence does
    rcases List.append_eq_append_iff.1 htext with ⟨late, rfl, hlate⟩ | ⟨info, hinfo, rfl⟩
    · cases late with
      | nil => exact absurd ⟨by simp, by simp⟩ hblock
      | cons c late =>
        obtain ⟨rfl, -⟩ := List.cons.inj hlate
        have hblank := htag.no_blank '\n' (by simp)
        rw [isBlank_newline] at hblank
        cases hblank
    · have hline : '\n' ∉ info := fun hmem => h.one_line (hinfo ▸ List.mem_append_right _ hmem)
      have hdrop : block.info.drop tag.length = info := by rw [hinfo, List.drop_left]
      rw [Option.bind_some, afterInfo?_of_not_blank hline, Option.bind_none]
      exact fun hall => hblock ⟨⟨info, hinfo.symm⟩, by rwa [hdrop]⟩

/-- A block gives its body if it has the tag, and is passed over otherwise. -/
theorem bodies_text_append (htag : IsTag tag) (h : block.IsProper)
    (hs : s = [] ∨ s.head? = some '\n') :
    bodies tag (block.text ++ s) =
      (if block.HasTag tag then [block.scannedBody] else []) ++ bodies tag s := by
  by_cases hblock : block.HasTag tag
  · rw [if_pos hblock, bodies_of_block? (block?_of_hasTag h hblock s), List.singleton_append]
  rw [if_neg hblock, List.nil_append]
  have hopening := block?_of_not_hasTag htag h hblock s
  -- between its fences, the block is prose that ends at the closing one
  have htext : block.text ++ s =
      ticks ++ ((block.info ++ '\n' :: (block.body ++ ['\n'])) ++ (ticks ++ s)) := by
    simp [text]
  have hprose : ¬ ticks <:+: block.info ++ '\n' :: (block.body ++ ['\n']) :=
    not_fence_append (not_fence_of_no_tick h.no_tick) (not_fence_append h.no_fence (by decide))
  have hinfo : ((block.info ++ '\n' :: (block.body ++ ['\n'])) ++ (ticks ++ s)).head? ≠
      some '`' := by
    cases hcase : block.info with
    | nil => simp
    | cons c info =>
      have hc : '`' ≠ c := by
        rintro rfl
        exact h.no_tick (hcase ▸ List.mem_cons_self)
      simpa using hc.symm
  have hclosing : block? tag (ticks ++ s) = none := by
    apply block?_eq_none
    rw [List.prefix_append_right_inj]
    obtain ⟨first, rest, rfl⟩ := List.exists_cons_of_ne_nil htag.ne_nil
    rintro ⟨after, rfl⟩
    rcases hs with hs | hs
    · cases hs
    · have hblank := htag.no_blank first List.mem_cons_self
      rw [Option.some.inj hs, isBlank_newline] at hblank
      cases hblank
  have hafter : s.head? ≠ some '`' := by
    rcases hs with rfl | hs
    · simp
    · rw [hs]
      decide
  rw [htext] at hopening ⊢
  rw [bodies_skip_fence hopening hinfo, bodies_skip_prose htag hprose (.inr ⟨s, rfl⟩),
    bodies_skip_fence hclosing hafter]

end Fenced

/-! ## Scanning a manuscript -/

/-- Blocks and the prose after them start with a fence. -/
private theorem atFence_textOfParts (parts : List (Fenced × List Char)) :
    AtFence (textOfParts parts) := by
  cases parts with
  | nil => exact .inl rfl
  | cons part parts =>
    refine .inr ⟨part.1.info ++ '\n' :: (part.1.body ++ '\n' :: ticks) ++
      (part.2 ++ textOfParts parts), ?_⟩
    simp [textOfParts, Fenced.text]

/-- The blocks of the tag give their bodies, and nothing else does. -/
private theorem bodies_textOfParts (htag : IsTag tag) {parts : List (Fenced × List Char)}
    (h : AreProper parts) :
    bodies tag (textOfParts parts) =
      ((parts.map Prod.fst).filter fun block => block.HasTag tag).map Fenced.scannedBody := by
  induction h with
  | nil => exact bodies_nil tag
  | @last block hblock =>
    rw [textOfParts, textOfParts, List.nil_append, Fenced.bodies_text_append htag hblock (.inl rfl),
      bodies_nil]
    by_cases hhas : block.HasTag tag <;> simp [hhas]
  | @cons block prose parts hblock hprose _ ih =>
    rw [textOfParts, Fenced.bodies_text_append htag hblock (.inr rfl),
      bodies_skip_prose htag hprose (atFence_textOfParts parts), ih]
    by_cases hhas : block.HasTag tag <;> simp [hhas]

/-- What is left of a manuscript are the contents of its retained blocks. -/
theorem contents_text (htag : IsTag tag) {manuscript : Manuscript} (h : manuscript.IsProper) :
    contents tag manuscript.text = (manuscript.retained tag).map Fenced.content := by
  have hbodies : bodies tag manuscript.text =
      ((manuscript.parts.map Prod.fst).filter fun block => block.HasTag tag).map
        Fenced.scannedBody := by
    rw [Manuscript.text, bodies_skip_prose htag h.opening (atFence_textOfParts _),
      bodies_textOfParts htag h.parts]
  have hcontent : (fun body => restoreHidden (trimEnd body)) ∘ Fenced.scannedBody =
      Fenced.content := by
    funext block
    rw [Function.comp, Fenced.scannedBody, trimEnd_endLines]
    rfl
  rw [contents, hbodies, List.map_map, hcontent, List.filter_map, List.filter_filter,
    Manuscript.retained]
  exact congrArg (List.map Fenced.content) (List.filter_congr fun block _ => Bool.and_comm _ _)

/-! ## Hidden lines -/

/-- A line is restored as hidden lines are. -/
theorem restores_restoreLine (line : List Char) : Restores line (restoreLine line) := by
  unfold restoreLine
  split
  next => exact .spaced
  next line hspace =>
    refine .hidden fun hhead => ?_
    obtain ⟨rest, rfl⟩ := List.head?_eq_some_iff.1 hhead
    exact hspace rest rfl
  next _ hplain =>
    refine .plain fun hhead => ?_
    obtain ⟨rest, rfl⟩ := List.head?_eq_some_iff.1 hhead
    exact hplain rest rfl

/-- A restored line has no characters that it did not have before. -/
theorem Restores.subset {line restored : List Char} (h : Restores line restored) :
    restored ⊆ line := by
  cases h with
  | plain => exact List.Subset.refl _
  | hidden => exact List.subset_cons_self _ _
  | spaced => exact fun _ hmem => List.mem_cons_of_mem _ (List.mem_cons_of_mem _ hmem)

/-- The lines of a text with the marks of hidden lines removed are its lines, each restored. -/
theorem forall₂_restores (s : List Char) :
    List.Forall₂ Restores (splitLines s) (splitLines (restoreHidden s)) := by
  have hlines : splitLines (restoreHidden s) = (splitLines s).map restoreLine := by
    have hne : (splitLines s).map restoreLine ≠ [] :=
      mt List.map_eq_nil_iff.1 (splitAt_ne_nil '\n' s)
    refine splitAt_joinWith hne fun line hmem => ?_
    obtain ⟨before, hbefore, rfl⟩ := List.mem_map.1 hmem
    exact fun hfeed => sep_not_mem_of_mem_splitAt hbefore
      ((restores_restoreLine before).subset hfeed)
  rw [hlines, List.forall₂_map_right_iff, List.forall₂_same]
  exact fun line _ => restores_restoreLine line

/-! ## The snippets of a manuscript -/

/-- The snippets of a manuscript are its blocks of the language but for those that are only an
ellipsis, in order and numbered from zero. They depend on nothing else of it, and their lines are
those of the blocks with the marks of hidden lines removed. -/
theorem snippets_of_manuscript (language : Language) (file : String) {manuscript : Manuscript}
    (h : manuscript.IsProper) :
    let blocks := manuscript.retained language.tag.toList
    let found := snippets language.tag file (String.ofList manuscript.text)
    (found = blocks.zipIdx.map fun (block, index) =>
      Snippet.new file index (String.ofList block.content)) ∧
    (∀ other : Manuscript, other.IsProper → other.retained language.tag.toList = blocks →
      snippets language.tag file (String.ofList other.text) = found) ∧
    ∀ block ∈ blocks, List.Forall₂ Restores (splitLines (trimEnd block.trimmedBody))
      (splitLines block.content) := by
  have hfound {manuscript : Manuscript} (h : manuscript.IsProper) :
      snippets language.tag file (String.ofList manuscript.text) =
        (manuscript.retained language.tag.toList).zipIdx.map fun (block, index) =>
          Snippet.new file index (String.ofList block.content) := by
    rw [snippets, String.toList_ofList, contents_text (isTag language) h, List.zipIdx_map,
      List.map_map]
    rfl
  refine ⟨hfound h, fun other hother hsame => ?_, fun block _ => forall₂_restores _⟩
  rw [hfound hother, hfound h, hsame]

/-- Prose, a block of another language, a block with a blank line in front and a hidden line, an
ellipsis, and a block with which the document ends. -/
def sampleManuscript : Manuscript where
  opening := "Text ``".toList
  parts := [
    (⟨"kotlin".toList, "val a = 1".toList⟩, "\n".toList),
    (⟨"java \t".toList, "\n  \n# import a.B;\nf();  ".toList⟩, "\n\nMore\n``".toList),
    (⟨"java".toList, "  ...".toList⟩, "\n".toList),
    (⟨"java".toList, "##g();".toList⟩, [])]

/-- The Java snippets of the manuscript are its second and its last block. -/
theorem snippets_of_manuscript_sample :
    sampleManuscript.IsProper ∧
      snippets "java" "docs\\a.md" (String.ofList sampleManuscript.text) =
        [⟨⟨"docs/a.md", 0⟩, "import a.B;\nf();"⟩, ⟨⟨"docs/a.md", 1⟩, "#g();"⟩] := by
  have hproper : sampleManuscript.IsProper := by
    refine ⟨by decide +kernel, .cons ⟨?_, ?_, ?_⟩ ?_ (.cons ⟨?_, ?_, ?_⟩ ?_
      (.cons ⟨?_, ?_, ?_⟩ ?_ (.last ⟨?_, ?_, ?_⟩)))⟩
    all_goals decide +kernel
  refine ⟨hproper, ?_⟩
  have hfound := (snippets_of_manuscript .java "docs\\a.md" hproper).1
  refine hfound.trans ?_
  decide +kernel

end SnippetCheck.Document
