/-!
# Lower Case

Lower-casing as far as it can produce an ASCII letter. Besides the ASCII capitals, the only
character whose lower case is an ASCII letter is the Kelvin sign; that of the capital I with a dot
is an `i` with a mark behind it. So a text lower-cased here has an ASCII word without an `i` in it,
or is an ASCII word, exactly when that holds of the fully lower-cased text.
-/

namespace SnippetCheck.Text

/-- The lower case of a capital ASCII letter or the Kelvin sign; any other character is
kept. -/
def lowerChar (c : Char) : Char :=
  if c = '\u212a' then 'k' else c.toLower

/-- Lower-case every character. -/
def lower (s : List Char) : List Char :=
  s.map lowerChar

/-- Whether `word` occurs in a text. -/
def contains (word : List Char) : List Char → Bool
  | [] => word.isEmpty
  | c :: s => word.isPrefixOf (c :: s) || contains word s

/-- A word occurs in a text if the text has it between two other texts. -/
theorem contains_eq_true_iff {word s : List Char} : contains word s = true ↔ word <:+: s := by
  induction s with
  | nil => simp [contains]
  | cons c s ih =>
    rw [contains, Bool.or_eq_true, List.isPrefixOf_iff_prefix, ih, List.infix_cons_iff]

end SnippetCheck.Text
