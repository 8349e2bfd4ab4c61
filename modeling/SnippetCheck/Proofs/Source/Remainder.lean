import SnippetCheck.Proofs.Source.Relocation
import SnippetCheck.Proofs.Text.Lines
import SnippetCheck.Wrap.Kotlin

/-!
# What Relocation Lifts And Leaves

Lifting the blocks of a body is one pass over its lines. What the pass lifts and what it leaves is
told here by the text of the body: by its lines, by what `classify` says of them, and by how many
opening and closing braces they have.

## Main definitions

* `Piece.Fits`: a piece stands where it may stand, given the lines after it;
* `Partitions`: pieces that are a body, each of which fits;
* `remainder`: the body that is left.

## Main results

* `cuts_iff_partitions`: a body is cut into the pieces that partition it;
* `relocate_pieces`: a body has one partition, whose blocks are lifted and whose lines are left;
* `relocate_remainder`: from what is left nothing more is lifted.
-/

namespace SnippetCheck.Source

open SnippetCheck.Text

/-- A piece stands where it may stand. A line that stays declares nothing. A block starts with a
declaration of its scope, leaves a brace open in front of each of its further lines, and leaves
none open at its end, unless the body ends there. -/
def Piece.Fits (classify : List Char → Option Scope) (rest : List (List Char)) : Piece → Prop
  | .block scope taken =>
    taken.head?.bind classify = some scope ∧
      (∀ front next back, taken = front ++ next :: back → front ≠ [] →
        front.flatten.count '\x7d' < front.flatten.count '\x7b') ∧
      (taken.flatten.count '\x7b' ≤ taken.flatten.count '\x7d' ∨ rest = [])
  | .line kept => classify kept = none

/-- Pieces that are the lines of a body in their order, each of which fits. -/
structure Partitions (classify : List Char → Option Scope) (lines : List (List Char))
    (pieces : List Piece) : Prop where
  /-- The pieces in their order are the lines. -/
  lines_eq : pieces.flatMap Piece.lines = lines
  /-- Each piece fits in front of the lines of those after it. -/
  fits : ∀ front piece back, pieces = front ++ piece :: back →
    piece.Fits classify (back.flatMap Piece.lines)

/-- The body that is left when the blocks of a body are lifted. -/
def remainder (classify : List Char → Option Scope) (body : List Char) : List Char :=
  joinLines (relocate classify (splitLines body)).remaining

variable {classify : List Char → Option Scope} {scope : Scope} {pieces : List Piece}
  {line : List Char} {lines block rest : List (List Char)}

/-! ## Braces -/

/-- A line leads deeper by the braces that it opens and does not close. -/
theorem braceDelta_eq_count (line : List Char) :
    braceDelta line = (line.count '\x7b' : Int) - line.count '\x7d' := by
  induction line with
  | nil => rfl
  | cons c line ih =>
    rw [braceDelta, ih]
    by_cases hopen : c = '\x7b'
    · simp [hopen]
      omega
    · by_cases hclose : c = '\x7d'
      · simp [hclose]
        omega
      · simp [hopen, hclose]

/-- Several lines lead deeper by the braces that they open and do not close. -/
theorem depth_eq_count (lines : List (List Char)) :
    depth lines = (lines.flatten.count '\x7b' : Int) - lines.flatten.count '\x7d' := by
  induction lines with
  | nil => rfl
  | cons line lines ih =>
    rw [depth_cons, ih, braceDelta_eq_count, List.flatten_cons, List.count_append,
      List.count_append]
    omega

/-- Whether a block fits can be told by its depth. -/
theorem isBlock_iff_fits :
    IsBlock classify scope block rest ↔ (Piece.block scope block).Fits classify rest := by
  -- both conditions on the depth are comparisons of counts
  have hopen (front : List (List Char)) :
      0 < depth front ↔ front.flatten.count '\x7d' < front.flatten.count '\x7b' := by
    rw [depth_eq_count]
    omega
  have hclosed : depth block ≤ 0 ↔ block.flatten.count '\x7b' ≤ block.flatten.count '\x7d' := by
    rw [depth_eq_count]
    omega
  constructor
  · intro h
    refine ⟨h.declares, ?_, h.balanced.imp_left hclosed.1⟩
    intro front line back heq hne
    exact (hopen front).1 (h.unbalanced front line back heq hne)
  · rintro ⟨hdeclares, hunbalanced, hbalanced⟩
    refine ⟨hdeclares, ?_, hbalanced.imp_left hclosed.2⟩
    intro front line back heq hne
    exact (hopen front).2 (hunbalanced front line back heq hne)

/-! ## Partitions -/

/-- Each piece of a list is its first one or one of the others, with the same pieces after it. -/
private theorem forall_split_cons {first : Piece} {holds : Piece → List Piece → Prop} :
    (∀ front piece back, first :: pieces = front ++ piece :: back → holds piece back) ↔
      holds first pieces ∧
        ∀ front piece back, pieces = front ++ piece :: back → holds piece back := by
  constructor
  · intro h
    refine ⟨h [] first pieces rfl, ?_⟩
    intro front piece back heq
    exact h (first :: front) piece back (by rw [heq, List.cons_append])
  · rintro ⟨hfirst, hothers⟩ front piece back heq
    cases front with
    | nil =>
      obtain ⟨rfl, rfl⟩ := List.cons.inj heq
      exact hfirst
    | cons other front => exact hothers front piece back (List.cons.inj heq).2

/-- A further piece is one that fits, with its lines in front. -/
private theorem partitions_cons {first : Piece} :
    Partitions classify lines (first :: pieces) ↔
      ∃ rest, lines = first.lines ++ rest ∧ first.Fits classify rest ∧
        Partitions classify rest pieces := by
  constructor
  · rintro ⟨hlines, hfits⟩
    obtain ⟨hfirst, hothers⟩ := forall_split_cons.1 hfits
    refine ⟨pieces.flatMap Piece.lines, ?_, hfirst, rfl, hothers⟩
    rw [← hlines, List.flatMap_cons]
  · rintro ⟨_, rfl, hfirst, rfl, hothers⟩
    exact ⟨List.flatMap_cons, forall_split_cons.2 ⟨hfirst, hothers⟩⟩

/-- A body is cut into the pieces that partition it. -/
theorem cuts_iff_partitions : Cuts classify lines pieces ↔ Partitions classify lines pieces := by
  constructor
  · intro h
    induction h with
    | nil => exact ⟨rfl, fun front piece back heq => by simp at heq⟩
    | @line line lines pieces hline _ ih =>
      exact partitions_cons.2 ⟨lines, rfl, hline, ih⟩
    | @block scope block rest pieces hblock _ ih =>
      exact partitions_cons.2 ⟨rest, rfl, isBlock_iff_fits.1 hblock, ih⟩
  · intro h
    induction pieces generalizing lines with
    | nil =>
      obtain ⟨rfl, -⟩ := h
      exact .nil
    | cons first pieces ih =>
      obtain ⟨rest, rfl, hfirst, hrest⟩ := partitions_cons.1 h
      cases first with
      | line kept => exact .line hfirst (ih hrest)
      | block scope block => exact .block (isBlock_iff_fits.2 hfirst) (ih hrest)

/-! ## The remainder -/

/-- The lines that are left are lines of the body that declare nothing. -/
private theorem of_mem_remaining (h : line ∈ (relocate classify lines).remaining) :
    line ∈ lines ∧ classify line = none := by
  obtain ⟨pieces, hcuts⟩ := exists_cuts classify lines
  rw [relocate_of_cuts hcuts] at h
  obtain ⟨piece, hpiece, hkept⟩ := List.mem_filterMap.1 h
  cases piece with
  | block => cases hkept
  | line kept =>
    cases hkept
    refine ⟨?_, ?_⟩
    · rw [← flatMap_lines_of_cuts hcuts]
      exact List.mem_flatMap.2 ⟨_, hpiece, List.mem_singleton_self line⟩
    · obtain ⟨front, back, rfl⟩ := List.append_of_mem hpiece
      exact (cuts_iff_partitions.1 hcuts).fits front _ back rfl

/-- Where nothing is declared, nothing is lifted. -/
theorem relocate_eq_of_forall_none (h : ∀ line ∈ lines, classify line = none) :
    relocate classify lines = { remaining := lines } := by
  induction lines with
  | nil => rw [relocate]
  | cons line lines ih =>
    obtain ⟨hline, hlines⟩ := List.forall_mem_cons.1 h
    rw [relocate, hline]
    simp only [ih hlines]
    rfl

/-- From what is left nothing more is lifted, if an empty line declares nothing: a body of which
nothing is left reads as an empty line. -/
theorem relocate_remainder (hempty : classify [] = none) (body : List Char) :
    relocate classify (splitLines (remainder classify body)) =
      { remaining := splitLines (remainder classify body) } := by
  apply relocate_eq_of_forall_none
  intro line hline
  by_cases hnone : (relocate classify (splitLines body)).remaining = []
  · rw [remainder, hnone] at hline
    obtain rfl : line = [] := by simpa [joinLines, joinWith, splitLines, splitAt] using hline
    exact hempty
  · have hlines : ∀ kept ∈ (relocate classify (splitLines body)).remaining, '\n' ∉ kept :=
      fun kept hkept => sep_not_mem_of_mem_splitAt (of_mem_remaining hkept).1
    -- joining the lines that are left and splitting them again gives the same lines
    rw [remainder, splitLines, joinLines, splitAt_joinWith hnone hlines] at hline
    exact (of_mem_remaining hline).2

/-- A body has one partition into blocks and lines. Its blocks are lifted, those of each scope in
order, and its lines are left in order; the pieces in their order give the body back. From what is
left of a body nothing more is lifted. -/
theorem relocate_pieces (classify : List Char → Option Scope) (body : List Char) :
    ∃ pieces : List Piece,
      Partitions classify (splitLines body) pieces ∧
      (∀ others, Partitions classify (splitLines body) others → others = pieces) ∧
      relocate classify (splitLines body) =
        { fileScope := blocksOf .file pieces
          typeScope := blocksOf .type pieces
          remaining := loose pieces } ∧
      joinLines (pieces.flatMap Piece.lines) = body ∧
      relocate Kotlin.classify (splitLines (remainder Kotlin.classify body)) =
        { fileScope := []
          typeScope := []
          remaining := splitLines (remainder Kotlin.classify body) } ∧
      remainder Kotlin.classify (remainder Kotlin.classify body) =
        remainder Kotlin.classify body := by
  obtain ⟨pieces, hcuts⟩ := exists_cuts classify (splitLines body)
  have hempty : Kotlin.classify [] = none := by decide
  have hagain := relocate_remainder hempty body
  refine ⟨pieces, cuts_iff_partitions.1 hcuts, ?_, relocate_of_cuts hcuts, ?_, hagain, ?_⟩
  · intro others hothers
    exact cuts_unique (cuts_iff_partitions.2 hothers) hcuts
  · rw [flatMap_lines_of_cuts hcuts, joinLines, splitLines, joinWith_splitAt]
  · rw [remainder, hagain]
    exact joinWith_splitAt '\n' _

end SnippetCheck.Source
