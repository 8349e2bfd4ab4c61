import SnippetCheck.Text.Blank
import SnippetCheck.Text.Category
import SnippetCheck.Text.Folding
import SnippetCheck.Text.Script
import SnippetCheck.Text.Word

/-!
# Sets Of Characters

The sets that a pattern can name, as expressions with a membership test.
-/

namespace SnippetCheck.Pattern

open SnippetCheck.Text

/-- A set of characters. -/
inductive CharSet where
  /-- No character. -/
  | empty
  /-- The characters from one code point to another, ends included. -/
  | range (first last : Nat)
  /-- The characters in one of several ranges. -/
  | table (ranges : List (Nat × Nat))
  /-- The word characters. -/
  | word
  /-- The decimal digits. -/
  | decimal
  /-- The blanks. -/
  | blank
  /-- The members of either set. -/
  | union (a b : CharSet)
  /-- The members of both sets. -/
  | inter (a b : CharSet)
  /-- The members of the first set that are not members of the second. -/
  | diff (a b : CharSet)
  /-- The characters that are no members. -/
  | complement (a : CharSet)
  /-- The characters that differ at most in case from a member. -/
  | folded (a : CharSet)
  deriving Inhabited

namespace CharSet

/-- Whether a character is a member of a set. -/
def mem (c : Char) : CharSet → Bool
  | .empty => false
  | .range first last => first ≤ c.toNat && c.toNat ≤ last
  | .table ranges => inRanges ranges c.toNat
  | .word => isWord c
  | .decimal => isDecimal c
  | .blank => isBlank c
  | .union a b => a.mem c || b.mem c
  | .inter a b => a.mem c && b.mem c
  | .diff a b => a.mem c && !b.mem c
  | .complement a => !a.mem c
  | .folded a => a.mem c || (foldOrbit c.toNat).any fun code => a.mem (Char.ofNat code)

/-- The set of one character. -/
def single (c : Char) : CharSet :=
  .range c.toNat c.toNat

/-- The union of several sets. -/
def unions : List CharSet → CharSet
  | [] => .empty
  | [a] => a
  | a :: rest => .union a (unions rest)

/-- Every character. -/
def any : CharSet :=
  .range 0 0x10ffff

/-- The members of exactly one of two sets. -/
def symmDiff (a b : CharSet) : CharSet :=
  .union (.diff a b) (.diff b a)

/-- A character is a member of a complement exactly when it is none of the set. -/
@[simp]
theorem mem_complement (c : Char) (a : CharSet) : a.complement.mem c = !a.mem c := rfl

/-- The members of a single-character set. -/
theorem mem_single (c d : Char) : (single d).mem c = decide (c = d) := by
  rw [Bool.eq_iff_iff]
  simp only [single, mem, Bool.and_eq_true, decide_eq_true_eq]
  constructor
  · rintro ⟨h₁, h₂⟩
    exact Char.toNat_inj.1 (Nat.le_antisymm h₂ h₁)
  · rintro rfl
    exact ⟨Nat.le_refl _, Nat.le_refl _⟩

end CharSet

end SnippetCheck.Pattern
