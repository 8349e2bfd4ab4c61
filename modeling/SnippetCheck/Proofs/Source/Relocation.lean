import SnippetCheck.Source.Relocation

/-!
# Cuts Of A Body

A body falls into pieces: blocks that start at a declaration and run until their braces are
balanced, and single lines between them. `Cuts` says which pieces a body may be cut into. It
speaks of the text of the pieces alone, not of how they are found.

## Main results

* `exists_cuts` and `cuts_unique`: a body is cut in exactly one way;
* `flatMap_lines_of_cuts`: the pieces in their order are the body, so every line of it stands in
  exactly one piece (`perm_of_cuts`);
* `relocate_of_cuts`: lifting the blocks of a body gives the blocks of each scope and the lines
  between blocks, each in the order of the pieces.
-/

namespace SnippetCheck.Source

/-- A piece of a body. -/
inductive Piece where
  /-- A block that is lifted to a scope. -/
  | block (scope : Scope) (lines : List (List Char))
  /-- A line that stays. -/
  | line (line : List Char)
  deriving DecidableEq, Repr

namespace Piece

/-- The lines of a piece. -/
def lines : Piece → List (List Char)
  | .block _ lines => lines
  | .line kept => [kept]

/-- The piece as a block of a scope. -/
def blockOf? (scope : Scope) : Piece → Option (List (List Char))
  | .block owner lines => if owner = scope then some lines else none
  | .line _ => none

/-- The piece as a line that stays. -/
def line? : Piece → Option (List Char)
  | .block _ _ => none
  | .line kept => some kept

end Piece

/-- The blocks that are lifted to a scope, in order. -/
def blocksOf (scope : Scope) (pieces : List Piece) : List (List (List Char)) :=
  pieces.filterMap (Piece.blockOf? scope)

/-- The lines that stay, in order. -/
def loose (pieces : List Piece) : List (List Char) :=
  pieces.filterMap Piece.line?

/-- How much deeper the braces of several lines lead. -/
def depth (lines : List (List Char)) : Int :=
  lines.foldr (fun line deeper => braceDelta line + deeper) 0

/-- A block in front of the rest of a body. -/
structure IsBlock (classify : List Char → Option Scope) (scope : Scope)
    (block rest : List (List Char)) : Prop where
  /-- The block starts at a declaration of its scope. -/
  declares : block.head?.bind classify = some scope
  /-- A brace is still to be closed in front of each further line. -/
  unbalanced : ∀ front line back,
    block = front ++ line :: back → front ≠ [] → 0 < depth front
  /-- No brace is left to be closed at the end, unless the body ends there. -/
  balanced : depth block ≤ 0 ∨ rest = []

/-- The pieces that a body is cut into. -/
inductive Cuts (classify : List Char → Option Scope) : List (List Char) → List Piece → Prop where
  /-- Nothing falls into no pieces. -/
  | nil : Cuts classify [] []
  /-- A line that declares nothing stays. -/
  | line {line lines pieces} (hline : classify line = none) (hrest : Cuts classify lines pieces) :
      Cuts classify (line :: lines) (.line line :: pieces)
  /-- A block is one piece. -/
  | block {scope block rest pieces} (hblock : IsBlock classify scope block rest)
      (hrest : Cuts classify rest pieces) :
      Cuts classify (block ++ rest) (.block scope block :: pieces)

variable {classify : List Char → Option Scope} {scope : Scope}
  {line : List Char} {lines block rest : List (List Char)}

@[simp]
theorem depth_nil : depth [] = 0 := rfl

@[simp]
theorem depth_cons (line : List Char) (lines : List (List Char)) :
    depth (line :: lines) = braceDelta line + depth lines := rfl

/-- The lines that a block takes at a depth: those in front of which the depth is above zero,
up to the end or to where it is not. -/
private theorem takeBlock_append_eq_iff {start : Int} :
    takeBlock start (block ++ rest) = (block, rest) ↔
      (∀ front line back, block = front ++ line :: back → 0 < start + depth front) ∧
        (start + depth block ≤ 0 ∨ rest = []) := by
  induction block generalizing start with
  | nil =>
    cases rest with
    | nil => simp [takeBlock]
    | cons next rest =>
      simp only [List.nil_append, takeBlock]
      split
      · simp
        omega
      · simp
        omega
  | cons first block ih =>
    rw [List.cons_append, takeBlock]
    split
    case isTrue hopen =>
      -- the line is taken, and the depth behind it is where the other lines start
      have hstep : takeBlock start (first :: (block ++ rest)) = (first :: block, rest) ↔
          takeBlock (start + braceDelta first) (block ++ rest) = (block, rest) := by
        simp [takeBlock, hopen, Prod.ext_iff]
      rw [takeBlock, if_pos hopen] at hstep
      rw [hstep, ih, depth_cons, Int.add_assoc]
      refine and_congr_left fun _ =>
        ⟨fun h front line back heq => ?_, fun h front line back heq => ?_⟩
      · cases front with
        | nil => simpa using hopen
        | cons head front =>
          obtain ⟨rfl, hback⟩ := List.cons.inj heq
          have := h front line back hback
          rw [depth_cons]
          omega
      · have := h (first :: front) line back (heq ▸ rfl)
        rw [depth_cons] at this
        omega
    case isFalse hclosed =>
      refine ⟨fun h => by simp at h, fun h => ?_⟩
      have := h.1 [] first block rfl
      simp only [depth_nil] at this
      omega

/-- A block is what its first line declares, with the lines that a block takes behind it. -/
theorem isBlock_iff :
    IsBlock classify scope block rest ↔
      ∃ line lines, block = line :: lines ∧ classify line = some scope ∧
        takeBlock (braceDelta line) (lines ++ rest) = (lines, rest) := by
  constructor
  · intro h
    obtain ⟨line, hhead, hscope⟩ := Option.bind_eq_some_iff.1 h.declares
    obtain ⟨lines, rfl⟩ := List.head?_eq_some_iff.1 hhead
    refine ⟨line, lines, rfl, hscope, takeBlock_append_eq_iff.2 ⟨?_, ?_⟩⟩
    · intro front next back heq
      simpa using h.unbalanced (line :: front) next back (heq ▸ rfl) (List.cons_ne_nil _ _)
    · simpa using h.balanced
  · rintro ⟨line, lines, rfl, hscope, htaken⟩
    obtain ⟨hopen, hend⟩ := takeBlock_append_eq_iff.1 htaken
    refine ⟨hscope, fun front next back heq hne => ?_, by simpa using hend⟩
    obtain ⟨head, front, rfl⟩ := List.exists_cons_of_ne_nil hne
    obtain ⟨rfl, hback⟩ := List.cons.inj heq
    simpa using hopen front next back hback

/-- Nothing falls into no pieces only. -/
private theorem eq_nil_of_cuts_nil {pieces : List Piece} (h : Cuts classify [] pieces) :
    pieces = [] := by
  generalize hall : ([] : List (List Char)) = all at h
  cases h with
  | nil => rfl
  | line => cases hall
  | block hblock =>
    obtain ⟨line, lines, rfl, -⟩ := isBlock_iff.1 hblock
    cases hall

/-- A body that starts with a line that declares nothing is cut behind that line. -/
private theorem cuts_cons_of_none {pieces : List Piece} (h : classify line = none) :
    Cuts classify (line :: lines) pieces ↔
      ∃ later, pieces = .line line :: later ∧ Cuts classify lines later := by
  constructor
  · generalize hall : line :: lines = all
    intro hcuts
    cases hcuts with
    | nil => cases hall
    | line hline hrest =>
      obtain ⟨rfl, rfl⟩ := List.cons.inj hall
      exact ⟨_, rfl, hrest⟩
    | block hblock hrest =>
      obtain ⟨first, taken, rfl, hscope, -⟩ := isBlock_iff.1 hblock
      obtain ⟨rfl, -⟩ := List.cons.inj hall
      rw [h] at hscope
      cases hscope
  · rintro ⟨later, rfl, hrest⟩
    exact .line h hrest

/-- A body that starts with a declaration is cut behind the block of that declaration. -/
private theorem cuts_cons_of_some {pieces : List Piece} (h : classify line = some scope) :
    Cuts classify (line :: lines) pieces ↔
      ∃ later, pieces = .block scope (line :: (takeBlock (braceDelta line) lines).1) :: later ∧
        Cuts classify (takeBlock (braceDelta line) lines).2 later := by
  constructor
  · generalize hall : line :: lines = all
    intro hcuts
    cases hcuts with
    | nil => cases hall
    | line hline hrest =>
      obtain ⟨rfl, -⟩ := List.cons.inj hall
      rw [h] at hline
      cases hline
    | block hblock hrest =>
      obtain ⟨first, taken, rfl, hscope, htaken⟩ := isBlock_iff.1 hblock
      obtain ⟨rfl, rfl⟩ := List.cons.inj hall
      obtain rfl := Option.some.inj (h.symm.trans hscope)
      rw [show takeBlock (braceDelta line) (List.append taken _) = _ from htaken]
      exact ⟨_, rfl, hrest⟩
  · rintro ⟨later, rfl, hrest⟩
    have hsplit := takeBlock_append (braceDelta line) lines
    have hcut := Cuts.block (isBlock_iff.2 ⟨line, _, rfl, h, by rw [hsplit]⟩) hrest
    rwa [List.cons_append, hsplit] at hcut

/-- A body can be cut. -/
theorem exists_cuts (classify : List Char → Option Scope) (lines : List (List Char)) :
    ∃ pieces, Cuts classify lines pieces := by
  fun_induction relocate classify lines with
  | case1 => exact ⟨[], .nil⟩
  | case2 line lines scope hscope taken _ ih =>
    obtain ⟨pieces, hpieces⟩ := ih
    exact ⟨_, (cuts_cons_of_some hscope).2 ⟨pieces, rfl, hpieces⟩⟩
  | case3 line lines hnone ih =>
    obtain ⟨pieces, hpieces⟩ := ih
    exact ⟨_, .line hnone hpieces⟩

/-- A body is cut in one way only. -/
theorem cuts_unique {pieces others : List Piece} (h : Cuts classify lines pieces)
    (hothers : Cuts classify lines others) : pieces = others := by
  induction h generalizing others with
  | nil => exact (eq_nil_of_cuts_nil hothers).symm
  | line hnone _ ih =>
    obtain ⟨later, rfl, hlater⟩ := (cuts_cons_of_none hnone).1 hothers
    rw [ih hlater]
  | block hblock _ ih =>
    obtain ⟨line, lines, rfl, hscope, htaken⟩ := isBlock_iff.1 hblock
    obtain ⟨later, rfl, hlater⟩ := (cuts_cons_of_some hscope).1 hothers
    -- the first line decides how much the block takes
    rw [show takeBlock (braceDelta line) (List.append lines _) = _ from htaken] at hlater ⊢
    rw [ih hlater]

/-- The pieces in their order are the body. -/
theorem flatMap_lines_of_cuts {pieces : List Piece} (h : Cuts classify lines pieces) :
    pieces.flatMap Piece.lines = lines := by
  induction h with
  | nil => rfl
  | line _ _ ih => rw [List.flatMap_cons, ih]; rfl
  | block _ _ ih => rw [List.flatMap_cons, ih]; rfl

/-- The blocks of a scope are its pieces. -/
theorem mem_blocksOf {pieces : List Piece} :
    block ∈ blocksOf scope pieces ↔ .block scope block ∈ pieces := by
  simp only [blocksOf, List.mem_filterMap]
  constructor
  · rintro ⟨_ | _, hmem, hpiece⟩
    · simp only [Piece.blockOf?, Option.ite_none_right_eq_some, Option.some.injEq] at hpiece
      obtain ⟨rfl, rfl⟩ := hpiece
      exact hmem
    · cases hpiece
  · intro hmem
    exact ⟨_, hmem, if_pos rfl⟩

/-- The blocks of a cut are blocks of the body. -/
theorem isBlock_of_mem_blocksOf {pieces : List Piece} (h : Cuts classify lines pieces)
    (hmem : block ∈ blocksOf scope pieces) : ∃ rest, IsBlock classify scope block rest := by
  rw [mem_blocksOf] at hmem
  induction h with
  | nil => cases hmem
  | line _ _ ih => exact ih (List.mem_of_ne_of_mem (by simp) hmem)
  | block hblock _ ih =>
    rcases List.mem_cons.1 hmem with heq | hmem
    · cases heq
      exact ⟨_, hblock⟩
    · exact ih hmem

/-- A block is not empty. -/
theorem IsBlock.ne_nil (h : IsBlock classify scope block rest) : block ≠ [] := by
  rintro rfl
  cases h.declares

/-- Every line stands in exactly one block or stays. -/
theorem perm_of_cuts {pieces : List Piece} (h : Cuts classify lines pieces) :
    ((blocksOf .file pieces).flatten ++ (blocksOf .type pieces).flatten ++ loose pieces).Perm
      lines := by
  induction h with
  | nil => exact .nil
  | @line line lines pieces _ _ ih =>
    exact List.perm_middle.trans (ih.cons line)
  | @block scope block rest pieces _ _ ih =>
    have hkept := ih.append_left block
    cases scope with
    | file =>
      show (block ++ (blocksOf .file pieces).flatten ++ (blocksOf .type pieces).flatten ++
        loose pieces).Perm (block ++ rest)
      simpa only [List.append_assoc] using hkept
    | type =>
      show ((blocksOf .file pieces).flatten ++ (block ++ (blocksOf .type pieces).flatten) ++
        loose pieces).Perm (block ++ rest)
      refine .trans ?_ hkept
      simp only [← List.append_assoc]
      exact (List.perm_append_comm.append_right _).append_right _

/-- Lifting the blocks of a body gives the pieces that it is cut into, each kind in order. -/
theorem relocate_of_cuts {pieces : List Piece} (h : Cuts classify lines pieces) :
    relocate classify lines =
      { fileScope := blocksOf .file pieces
        typeScope := blocksOf .type pieces
        remaining := loose pieces } := by
  induction h with
  | nil => rw [relocate]; rfl
  | line hline _ ih =>
    rw [relocate, hline]
    simp only [ih]
    rfl
  | @block scope _ _ _ hblock _ ih =>
    obtain ⟨line, lines, rfl, hscope, htaken⟩ := isBlock_iff.1 hblock
    rw [List.cons_append, relocate, hscope]
    simp only [htaken, ih]
    cases scope <;> rfl

end SnippetCheck.Source
