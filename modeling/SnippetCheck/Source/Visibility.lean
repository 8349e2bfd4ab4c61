import SnippetCheck.Document
import SnippetCheck.Text.Word

/-!
# Visibility Of Local Types

A type declared inside a method carries no visibility modifier. Such a modifier is removed
where it is the first word of a line and a type declaration follows it, together with the
blanks after it. The declaration may stand on a later line than its modifier.
-/

namespace SnippetCheck.Source

open SnippetCheck.Text SnippetCheck.Document

/-- The words that make up a declaration of a type in a language. -/
structure VisibilityRule where
  /-- The modifiers to remove. -/
  modifiers : List (List Char)
  /-- The words that may stand between the modifier and the kind of type. -/
  qualifiers : List (List Char)
  /-- The kinds of types. -/
  kinds : List (List Char)

/-- The first of the words that starts a text, and what follows it. -/
def afterWord? (words : List (List Char)) (s : List Char) : Option (List Char × List Char) :=
  words.findSome? fun word => (after? word s).map fun rest => (word, rest)

/-- The leading blanks of a text, of which there has to be one, and what follows them. -/
def afterBlanks? (s : List Char) : Option (List Char × List Char) :=
  match s.takeWhile isBlank with
  | [] => none
  | blanks => some (blanks, s.dropWhile isBlank)

/-- Whether a word may end before a text. -/
def endsWord : List Char → Bool
  | [] => true
  | c :: _ => !isWord c

/-- What follows blanks is shorter. -/
theorem length_lt_of_afterBlanks? {s blanks rest : List Char}
    (h : afterBlanks? s = some (blanks, rest)) : rest.length < s.length := by
  simp only [afterBlanks?] at h
  split at h
  · cases h
  next hne =>
    simp only [Option.some.injEq, Prod.mk.injEq] at h
    have hlen : s.length = (s.takeWhile isBlank).length + (s.dropWhile isBlank).length := by
      rw [← List.length_append, List.takeWhile_append_dropWhile]
    have : (s.takeWhile isBlank).length ≠ 0 := fun hz => hne (List.eq_nil_of_length_eq_zero hz)
    rw [← h.2]
    omega

/-- What follows a word is not longer. -/
theorem length_le_of_afterWord? {words : List (List Char)} {s word rest : List Char}
    (h : afterWord? words s = some (word, rest)) : rest.length ≤ s.length := by
  obtain ⟨w, _, hw⟩ := List.exists_of_findSome?_eq_some h
  obtain ⟨r, hr, heq⟩ := Option.map_eq_some_iff.1 hw
  simp only [Prod.mk.injEq] at heq
  have := length_le_of_after? hr
  rw [← heq.2]
  omega

/-- The qualifiers and the kind that start a text, and what follows them. -/
def declaration? (rule : VisibilityRule) (s : List Char) : Option (List Char × List Char) :=
  match _hword : afterWord? rule.qualifiers s with
  | some (word, s₁) =>
    match _hblanks : afterBlanks? s₁ with
    | some (blanks, s₂) =>
      (declaration? rule s₂).map fun (declared, rest) => (word ++ blanks ++ declared, rest)
    | none => none
  | none => (afterWord? rule.kinds s).filter fun (_, rest) => endsWord rest
termination_by s.length
decreasing_by
  have := length_le_of_afterWord? _hword
  have := length_lt_of_afterBlanks? _hblanks
  omega

/-- The declaration behind a modifier that starts a text, and what follows it. -/
def modified? (rule : VisibilityRule) (s : List Char) : Option (List Char × List Char) :=
  (afterWord? rule.modifiers s).bind fun (_, s) =>
    (afterBlanks? s).bind fun (_, s) => declaration? rule s

/-- What follows a declaration is not longer. -/
theorem length_le_of_declaration? {rule : VisibilityRule} {s declared rest : List Char}
    (h : declaration? rule s = some (declared, rest)) : rest.length ≤ s.length := by
  fun_induction declaration? rule s generalizing declared with
  | case1 s word s₁ hword blanks s₂ hblanks ih =>
    obtain ⟨⟨d, r⟩, hd, heq⟩ := Option.map_eq_some_iff.1 h
    simp only [Prod.mk.injEq] at heq
    obtain ⟨_, rfl⟩ := heq
    have := ih hd
    have := length_le_of_afterWord? hword
    have := length_lt_of_afterBlanks? hblanks
    omega
  | case2 => cases h
  | case3 s hword =>
    rw [Option.filter_eq_some_iff] at h
    exact length_le_of_afterWord? h.1

/-- What follows a modified declaration is shorter than the text it starts. -/
theorem length_lt_of_modified? {rule : VisibilityRule} {s declared rest : List Char}
    (h : modified? rule s = some (declared, rest)) : rest.length < s.length := by
  simp only [modified?, Option.bind_eq_some_iff, Prod.exists] at h
  obtain ⟨_, s₁, hword, _, s₂, hblanks, hdeclared⟩ := h
  have := length_le_of_afterWord? hword
  have := length_lt_of_afterBlanks? hblanks
  have := length_le_of_declaration? hdeclared
  omega

/-- Remove modifiers from a text. `atStart` says that nothing but blanks stands before the
text on its line. -/
def stripFrom (rule : VisibilityRule) (atStart : Bool) (s : List Char) : List Char :=
  match s with
  | [] => []
  | c :: s =>
    if atStart && !isBlank c then
      match _h : modified? rule (c :: s) with
      | some (declared, rest) => declared ++ stripFrom rule false rest
      | none => c :: stripFrom rule false s
    else c :: stripFrom rule (c = '\n' || (atStart && isBlank c)) s
termination_by s.length
decreasing_by
  · exact length_lt_of_modified? ‹_›
  · simp
  · simp

/-- A text without the modifiers of its local types. -/
def stripVisibility (rule : VisibilityRule) (s : List Char) : List Char :=
  stripFrom rule true s

end SnippetCheck.Source
