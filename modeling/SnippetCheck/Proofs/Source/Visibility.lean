import Mathlib.Data.List.DropRight
import Mathlib.Tactic.IntervalCases
import SnippetCheck.Proofs.Document
import SnippetCheck.Source.Visibility

/-!
# Modifiers In Front Of Declarations

A text declares a type if it starts with a kind of type as a whole word, behind any number of
qualifiers (`Declares`), and it starts modified if a modifier and blanks stand in front of such a
declaration (`StartsModified`). Of a rule without qualifiers whose words can be told apart
(`IsDirect`), `declaration?` and `modified?` find just these (`declares_iff`,
`startsModified_iff`). Such a rule looks at one line at a time (`modified?_append`): what follows
the line matters only to a modifier that stands alone on it (`modified?_append_of_mem`).
-/

namespace SnippetCheck

namespace Text

/-! ## Blanks -/

/-- The blank characters in their order. -/
def blankChars : List Char :=
  ['\t', '\n', '\u000b', '\u000c', '\r', ' ', '\u0085', '\u00a0', '\u1680', '\u2000', '\u2001',
    '\u2002', '\u2003', '\u2004', '\u2005', '\u2006', '\u2007', '\u2008', '\u2009', '\u200a',
    '\u2028', '\u2029', '\u202f', '\u205f', '\u3000']

/-- There are no other blank characters. -/
theorem mem_blankChars {c : Char} (h : isBlank c = true) : c ∈ blankChars := by
  have hcontrols : '\t' ≤ c ∧ c ≤ '\r' → c ∈ blankChars := by
    rintro ⟨hlow, hhigh⟩
    have hlow : 9 ≤ c.toNat := hlow
    have hhigh : c.toNat ≤ 13 := hhigh
    rw [← Char.ofNat_toNat c]
    interval_cases c.toNat <;> decide
  have hspaces : '\u2000' ≤ c ∧ c ≤ '\u200a' → c ∈ blankChars := by
    rintro ⟨hlow, hhigh⟩
    have hlow : 0x2000 ≤ c.toNat := hlow
    have hhigh : c.toNat ≤ 0x200a := hhigh
    rw [← Char.ofNat_toNat c]
    interval_cases c.toNat <;> decide
  simp only [isBlank, Bool.or_eq_true, Bool.and_eq_true, decide_eq_true_eq, beq_iff_eq] at h
  rcases h with (((((((((rfl | h) | rfl) | rfl) | rfl) | h) | rfl) | rfl) | rfl) | rfl) | rfl
  case inl.inl.inl.inl.inl.inl.inl.inl.inl.inr => exact hcontrols h
  case inl.inl.inl.inl.inl.inr => exact hspaces h
  all_goals decide

/-- No blank is part of a word. -/
theorem isWord_of_isBlank {c : Char} (h : isBlank c = true) : isWord c = false := by
  have hall : blankChars.all (fun c => !isWord c) = true := by decide +kernel
  simpa using List.all_eq_true.1 hall c (mem_blankChars h)

end Text

open Text

namespace Document

/-- A word starts a text with its first character. -/
theorem after?_cons_cons (first c : Char) (word s : List Char) :
    after? (first :: word) (c :: s) = if first = c then after? word s else none := by
  by_cases hfirst : first = c <;> simp [after?, hfirst]

end Document

namespace Source

open Document

variable {rule : VisibilityRule} {words : List (List Char)} {word s tail rest blanks : List Char}

/-! ## Declarations as a relation -/

/-- A text that starts with a declaration of a type. -/
inductive Declares (rule : VisibilityRule) : List Char → Prop where
  /-- A kind of type as a whole word. -/
  | kind {kind rest : List Char} (hkind : kind ∈ rule.kinds) (hrest : endsWord rest = true) :
      Declares rule (kind ++ rest)
  /-- A qualifier and blanks in front of a declaration. -/
  | qualified {word blanks rest : List Char} (hword : word ∈ rule.qualifiers) (hne : blanks ≠ [])
      (hblanks : ∀ c ∈ blanks, isBlank c = true) (hrest : Declares rule rest) :
      Declares rule (word ++ (blanks ++ rest))

/-- A text that starts with a modifier and blanks in front of a declaration. -/
inductive StartsModified (rule : VisibilityRule) : List Char → Prop where
  /-- The modifier, the blanks and the declaration. -/
  | modifier {word blanks rest : List Char} (hword : word ∈ rule.modifiers) (hne : blanks ≠ [])
      (hblanks : ∀ c ∈ blanks, isBlank c = true) (hrest : Declares rule rest) :
      StartsModified rule (word ++ (blanks ++ rest))

/-- A word that is not empty and holds no blanks. -/
structure IsSolid (word : List Char) : Prop where
  /-- The word is not empty. -/
  ne_nil : word ≠ []
  /-- No character is blank. -/
  no_blank : ∀ c ∈ word, isBlank c = false

instance (word : List Char) : Decidable (IsSolid word) :=
  decidable_of_iff (word ≠ [] ∧ word.all (fun c => !isBlank c) = true)
    ⟨fun ⟨hnil, hblank⟩ => ⟨hnil, by simpa using hblank⟩,
      fun ⟨hnil, hblank⟩ => ⟨hnil, by simpa using hblank⟩⟩

/-- Words of which none starts another one. -/
def Apart (words : List (List Char)) : Prop :=
  words.Pairwise fun a b => ¬ a <+: b ∧ ¬ b <+: a

instance (words : List (List Char)) : Decidable (Apart words) :=
  inferInstanceAs (Decidable (words.Pairwise _))

/-- A rule in which the kind of type follows the modifier directly, and whose words can be told
apart. -/
structure VisibilityRule.IsDirect (rule : VisibilityRule) : Prop where
  /-- No word stands between the modifier and the kind. -/
  qualifiers : rule.qualifiers = []
  /-- The modifiers and the kinds are words. -/
  solid : ∀ word ∈ rule.modifiers ++ rule.kinds, IsSolid word
  /-- No modifier or kind starts another one. -/
  apart : Apart (rule.modifiers ++ rule.kinds)

namespace VisibilityRule.IsDirect

variable (hrule : rule.IsDirect)

include hrule

/-- A modifier is a word. -/
theorem solid_modifier (h : word ∈ rule.modifiers) : IsSolid word :=
  hrule.solid word (List.mem_append_left _ h)

/-- A kind is a word. -/
theorem solid_kind (h : word ∈ rule.kinds) : IsSolid word :=
  hrule.solid word (List.mem_append_right _ h)

/-- No modifier starts another one. -/
theorem apart_modifiers : Apart rule.modifiers :=
  (List.pairwise_append.1 hrule.apart).1

/-- No kind starts another one. -/
theorem apart_kinds : Apart rule.kinds :=
  (List.pairwise_append.1 hrule.apart).2.1

/-- No text starts with a modifier and with a kind. -/
theorem ne_append {kind other : List Char} (hword : word ∈ rule.modifiers)
    (hkind : kind ∈ rule.kinds) : word ++ rest ≠ kind ++ other := by
  intro heq
  have hapart := (List.pairwise_append.1 hrule.apart).2.2 word hword kind hkind
  rcases List.prefix_or_prefix_of_prefix (List.prefix_append word rest)
    (heq ▸ List.prefix_append kind other) with h | h
  · exact hapart.1 h
  · exact hapart.2 h

end VisibilityRule.IsDirect

/-! ## Words and blanks -/

/-- A word holds no line feed. -/
theorem IsSolid.newline_not_mem (h : IsSolid word) : '\n' ∉ word := fun hmem => by
  simpa using h.no_blank _ hmem

/-- A text that starts with a word starts with no blank. -/
theorem IsSolid.trimStart_append (h : IsSolid word) (s : List Char) :
    trimStart (word ++ s) = word ++ s := by
  obtain ⟨c, word, rfl⟩ := List.exists_cons_of_ne_nil h.ne_nil
  rw [List.cons_append, trimStart, List.dropWhile_cons_of_neg]
  simp [h.no_blank c List.mem_cons_self]

/-- Trimming the end of a word with blanks behind it leaves the word. -/
theorem IsSolid.trimEnd_append (h : IsSolid word) (hblanks : ∀ c ∈ blanks, isBlank c = true) :
    trimEnd (word ++ blanks) = word := by
  have hreverse : IsSolid word.reverse :=
    ⟨by simpa using h.ne_nil, fun c hc => h.no_blank c (List.mem_reverse.1 hc)⟩
  have htrim := hreverse.trimStart_append []
  rw [List.append_nil] at htrim
  rw [trimEnd_append_right hblanks, trimEnd, htrim, List.reverse_reverse]

/-- A word may end in front of blanks. -/
theorem endsWord_of_blank (hblanks : ∀ c ∈ blanks, isBlank c = true) : endsWord blanks = true := by
  cases blanks with
  | nil => rfl
  | cons c blanks => rw [endsWord, isWord_of_isBlank (hblanks c List.mem_cons_self)]; rfl

/-- A declaration is one with blanks behind it too. -/
theorem Declares.append_blanks (h : Declares rule s) (hblanks : ∀ c ∈ blanks, isBlank c = true) :
    Declares rule (s ++ blanks) := by
  induction h with
  | @kind _ rest hkind hrest =>
    rw [List.append_assoc]
    refine .kind hkind ?_
    cases rest with
    | nil => exact endsWord_of_blank hblanks
    | cons => exact hrest
  | qualified hword hne hgap _ ih =>
    rw [List.append_assoc, List.append_assoc]
    exact .qualified hword hne hgap ih

/-- A modified declaration is one with blanks behind it too. -/
theorem StartsModified.append_blanks (h : StartsModified rule s)
    (hblanks : ∀ c ∈ blanks, isBlank c = true) : StartsModified rule (s ++ blanks) := by
  obtain ⟨hword, hne, hgap, hrest⟩ := h
  rw [List.append_assoc, List.append_assoc]
  exact .modifier hword hne hgap (hrest.append_blanks hblanks)

/-- The first word of a list is looked for before the others. -/
theorem afterWord?_cons (word : List Char) (words : List (List Char)) (s : List Char) :
    afterWord? (word :: words) s =
      ((after? word s).map (word, ·)).orElse fun () => afterWord? words s := by
  rw [afterWord?, afterWord?, List.findSome?_cons]
  cases after? word s <;> rfl

/-- No word starts an empty text. -/
theorem afterWord?_nil (h : [] ∉ words) : afterWord? words [] = none := by
  refine List.findSome?_eq_none_iff.2 fun word hword => ?_
  rw [after?_eq_none.2 fun hprefix => h (List.prefix_nil.1 hprefix ▸ hword)]
  rfl

/-- Of words that can be told apart, the one is found that starts the text. -/
theorem afterWord?_eq_some_iff (hwords : Apart words) :
    afterWord? words s = some (word, rest) ↔ word ∈ words ∧ s = word ++ rest := by
  induction words with
  | nil => simp [afterWord?]
  | cons first words ih =>
    obtain ⟨hfirst, hwords⟩ := List.pairwise_cons.1 hwords
    rw [afterWord?_cons, List.mem_cons]
    cases hafter : after? first s with
    | none =>
      have hne : word = first → s ≠ word ++ rest := by
        rintro rfl rfl
        exact after?_eq_none.1 hafter (List.prefix_append _ _)
      rw [Option.map_none, Option.orElse_none, ih hwords]
      tauto
    | some other =>
      rw [after?_eq_some.1 hafter]
      simp only [Option.map_some, Option.orElse_some, Option.some.injEq, Prod.mk.injEq]
      constructor
      · rintro ⟨rfl, rfl⟩
        exact ⟨.inl rfl, rfl⟩
      · rintro ⟨rfl | hmem, heq⟩
        · exact ⟨rfl, List.append_cancel_left heq⟩
        · rcases List.prefix_or_prefix_of_prefix (List.prefix_append first other)
            (heq ▸ List.prefix_append word rest) with h | h
          · exact absurd h (hfirst word hmem).1
          · exact absurd h (hfirst word hmem).2

/-- The leading blanks of a text, if there are any. -/
theorem afterBlanks?_eq (s : List Char) :
    afterBlanks? s = if s.takeWhile isBlank = [] then none
      else some (s.takeWhile isBlank, trimStart s) := by
  rw [afterBlanks?]
  split <;> simp_all [trimStart]

/-- Blanks are found where they start a text and something else follows them. -/
theorem afterBlanks?_eq_some_iff :
    afterBlanks? s = some (blanks, rest) ↔
      blanks ≠ [] ∧ (∀ c ∈ blanks, isBlank c = true) ∧ trimStart rest = rest ∧
        s = blanks ++ rest := by
  rw [afterBlanks?_eq, Option.ite_none_left_eq_some, Option.some.injEq, Prod.mk.injEq]
  constructor
  · rintro ⟨hne, rfl, rfl⟩
    exact ⟨hne, fun c hc => List.mem_takeWhile_imp hc, List.dropWhile_idempotent _ _,
      List.takeWhile_append_dropWhile.symm⟩
  · rintro ⟨hne, hblanks, hrest, rfl⟩
    have htake : rest.takeWhile isBlank = [] :=
      List.takeWhile_eq_nil_iff.2 (List.dropWhile_eq_self_iff.1 hrest)
    rw [List.takeWhile_append_of_pos hblanks, htake, List.append_nil, trimStart,
      List.dropWhile_append_of_pos hblanks]
    exact ⟨hne, rfl, hrest⟩

/-! ## Rules without qualifiers -/

/-- A declaration is a word that may stand in front of one and a declaration after it, or a kind of
type. -/
theorem declaration?_eq (rule : VisibilityRule) (s : List Char) :
    declaration? rule s =
      match afterWord? rule.qualifiers s with
      | some (word, s) => (afterBlanks? s).bind fun (blanks, s) =>
          (declaration? rule s).map fun (declared, rest) => (word ++ blanks ++ declared, rest)
      | none => (afterWord? rule.kinds s).filter fun (_, rest) => endsWord rest := by
  rw [declaration?]
  split
  next word s₁ hword =>
    rw [hword]
    dsimp only
    split
    next hblanks => rw [hblanks]; rfl
    next hblanks => rw [hblanks]; rfl
  next hword => rw [hword]

/-- Nothing is declared in an empty text. -/
theorem declaration?_nil (hqualifiers : [] ∉ rule.qualifiers) (hkinds : [] ∉ rule.kinds) :
    declaration? rule [] = none := by
  rw [declaration?_eq, afterWord?_nil hqualifiers, afterWord?_nil hkinds]
  rfl

section Direct

variable (hrule : rule.IsDirect)

include hrule

/-- Without qualifiers, a declaration is a kind of type. -/
theorem declaration?_of_isDirect (s : List Char) :
    declaration? rule s = (afterWord? rule.kinds s).filter fun (_, rest) => endsWord rest := by
  rw [declaration?_eq, hrule.qualifiers]
  rfl

/-- The declaration that starts a text is its kind of type. -/
theorem declaration?_eq_some_iff {kind : List Char} :
    declaration? rule s = some (kind, rest) ↔
      kind ∈ rule.kinds ∧ endsWord rest = true ∧ s = kind ++ rest := by
  rw [declaration?_of_isDirect hrule, Option.filter_eq_some_iff,
    afterWord?_eq_some_iff hrule.apart_kinds]
  tauto

/-- Without qualifiers, a declaration starts with its kind of type. -/
theorem Declares.exists_kind (h : Declares rule s) :
    ∃ kind rest, kind ∈ rule.kinds ∧ endsWord rest = true ∧ s = kind ++ rest := by
  cases h with
  | kind hkind hrest => exact ⟨_, _, hkind, hrest, rfl⟩
  | qualified hword =>
    rw [hrule.qualifiers] at hword
    cases hword

/-- A text declares a type where a declaration is found. -/
theorem declares_iff : Declares rule s ↔ (declaration? rule s).isSome = true := by
  rw [Option.isSome_iff_exists, Prod.exists]
  simp only [declaration?_eq_some_iff hrule]
  refine ⟨fun h => h.exists_kind hrule, ?_⟩
  rintro ⟨kind, rest, hkind, hrest, rfl⟩
  exact .kind hkind hrest

/-- A declaration starts with no blank. -/
theorem Declares.trimStart_eq (h : Declares rule s) : trimStart s = s := by
  obtain ⟨kind, rest, hkind, -, rfl⟩ := h.exists_kind hrule
  exact (hrule.solid_kind hkind).trimStart_append rest

/-- What is found behind a modifier that starts a text. -/
theorem modified?_eq_some_iff {kind : List Char} :
    modified? rule s = some (kind, rest) ↔
      ∃ word ∈ rule.modifiers, ∃ blanks ≠ [], (∀ c ∈ blanks, isBlank c = true) ∧
        kind ∈ rule.kinds ∧ endsWord rest = true ∧ s = word ++ (blanks ++ (kind ++ rest)) := by
  simp only [modified?, Option.bind_eq_some_iff, Prod.exists,
    afterWord?_eq_some_iff hrule.apart_modifiers, afterBlanks?_eq_some_iff,
    declaration?_eq_some_iff hrule]
  constructor
  · rintro ⟨word, _, ⟨hword, rfl⟩, blanks, _, ⟨hne, hblanks, -, rfl⟩, hkind, hrest, rfl⟩
    exact ⟨word, hword, blanks, hne, hblanks, hkind, hrest, rfl⟩
  · rintro ⟨word, hword, blanks, hne, hblanks, hkind, hrest, rfl⟩
    exact ⟨word, _, ⟨hword, rfl⟩, blanks, _,
      ⟨hne, hblanks, (hrule.solid_kind hkind).trimStart_append _, rfl⟩, hkind, hrest, rfl⟩

/-- A text starts modified where a modifier is found. -/
theorem startsModified_iff : StartsModified rule s ↔ (modified? rule s).isSome = true := by
  rw [Option.isSome_iff_exists, Prod.exists]
  simp only [modified?_eq_some_iff hrule]
  constructor
  · rintro ⟨hword, hne, hblanks, hrest⟩
    obtain ⟨kind, rest, hkind, hend, rfl⟩ := hrest.exists_kind hrule
    exact ⟨kind, rest, _, hword, _, hne, hblanks, hkind, hend, rfl⟩
  · rintro ⟨kind, rest, word, hword, blanks, hne, hblanks, hkind, hend, rfl⟩
    exact .modifier hword hne hblanks (.kind hkind hend)

end Direct

/-! ## Up to a line end -/

variable {lines : List (List Char)}

/-- There is nothing to trim off an empty text. -/
theorem trimStart_nil : trimStart [] = [] := rfl

/-- A word stands in front of a line end if it stands there without it. -/
theorem after?_append (hword : '\n' ∉ word) (htail : EndsLine tail) (s : List Char) :
    after? word (s ++ tail) = (after? word s).map (· ++ tail) := by
  induction word generalizing s with
  | nil => rfl
  | cons first word ih =>
    rw [List.mem_cons, not_or] at hword
    cases s with
    | nil =>
      rcases htail with rfl | ⟨t, rfl⟩
      · rfl
      · rw [List.nil_append, after?_cons_cons, if_neg (Ne.symm hword.1)]
        rfl
    | cons c s =>
      rw [List.cons_append, after?_cons_cons, after?_cons_cons]
      split
      · exact ih hword.2 s
      · rfl

/-- Of several words, the same one stands in front of a line end. -/
theorem afterWord?_append (hwords : ∀ word ∈ words, '\n' ∉ word) (htail : EndsLine tail)
    (s : List Char) :
    afterWord? words (s ++ tail) =
      (afterWord? words s).map (Prod.map id (· ++ tail)) := by
  induction words with
  | nil => rfl
  | cons word words ih =>
    obtain ⟨hword, hwords⟩ := List.forall_mem_cons.1 hwords
    rw [afterWord?_cons, afterWord?_cons, after?_append hword htail, ih hwords]
    cases after? word s <;> rfl

/-- A word may end at a line end. -/
theorem endsWord_append (htail : EndsLine tail) (s : List Char) :
    endsWord (s ++ tail) = endsWord s := by
  cases s with
  | nil =>
    rcases htail with rfl | ⟨t, rfl⟩
    · rfl
    · rw [List.nil_append, endsWord, endsWord, isWord_of_isBlank isBlank_newline]
      rfl
  | cons => rfl

/-- Nothing is modified in an empty text. -/
theorem StartsModified.ne_nil (h : StartsModified rule s) : s ≠ [] := by
  obtain ⟨-, hne, -, -⟩ := h
  simp [hne]

section Direct

variable (hrule : rule.IsDirect)

include hrule

/-- A kind of type stands on one line. -/
theorem declaration?_append (htail : EndsLine tail) (s : List Char) :
    declaration? rule (s ++ tail) =
      (declaration? rule s).map (Prod.map id (· ++ tail)) := by
  rw [declaration?_of_isDirect hrule, declaration?_of_isDirect hrule,
    afterWord?_append (fun word hword => (hrule.solid_kind hword).newline_not_mem) htail]
  cases afterWord? rule.kinds s with
  | none => rfl
  | some read =>
    simp only [Option.map_some, Option.filter_some, Prod.map_snd, endsWord_append htail]
    split <;> rfl

/-- Without qualifiers, the kinds are all words that may be declared. -/
theorem VisibilityRule.IsDirect.declaration?_nil : declaration? rule [] = none := by
  refine Source.declaration?_nil (by simp [hrule.qualifiers]) fun h => ?_
  exact (hrule.solid_kind h).ne_nil rfl

/-- A text without blanks in front is a modifier and nothing else. -/
theorem trimEnd_mem_modifiers_iff :
    trimEnd s ∈ rule.modifiers ↔
      ∃ word ∈ rule.modifiers, ∃ blanks, (∀ c ∈ blanks, isBlank c = true) ∧ s = word ++ blanks := by
  constructor
  · intro h
    obtain ⟨blanks, hs, hblanks⟩ := exists_eq_trimEnd_append s
    exact ⟨_, h, blanks, hblanks, hs⟩
  · rintro ⟨word, hword, blanks, hblanks, rfl⟩
    rwa [(hrule.solid_modifier hword).trimEnd_append hblanks]

/-- A modifier that stands alone on its line belongs to the declaration that starts what follows. -/
theorem modified?_append_of_mem (h : trimEnd s ∈ rule.modifiers) (htail : EndsLine tail) :
    modified? rule (s ++ tail) = declaration? rule (trimStart tail) := by
  obtain ⟨word, hword, blanks, hblanks, rfl⟩ := (trimEnd_mem_modifiers_iff hrule).1 h
  have hread : afterWord? rule.modifiers (word ++ blanks ++ tail) = some (word, blanks ++ tail) :=
    (afterWord?_eq_some_iff hrule.apart_modifiers).2 ⟨hword, List.append_assoc _ _ _⟩
  rw [modified?, hread, Option.bind_some]
  dsimp only
  rw [afterBlanks?_eq, List.takeWhile_append_of_pos hblanks, trimStart,
    List.dropWhile_append_of_pos hblanks, ← trimStart]
  split
  next hnil =>
    -- no blank follows the modifier, so that the text ends with it
    have htake := (List.append_eq_nil_iff.1 hnil).2
    rcases htail with rfl | ⟨t, rfl⟩
    · exact (hrule.declaration?_nil).symm
    · simp at htake
  next => rfl

/-- Anything else is modified on its own line. -/
private theorem modified?_append_of_not_mem (h : trimEnd s ∉ rule.modifiers)
    (htail : EndsLine tail) :
    modified? rule (s ++ tail) =
      (modified? rule s).map (Prod.map id (· ++ tail)) := by
  rw [modified?, modified?,
    afterWord?_append (fun word hword => (hrule.solid_modifier hword).newline_not_mem) htail]
  cases hread : afterWord? rule.modifiers s with
  | none => rfl
  | some read =>
    obtain ⟨word, rest⟩ := read
    obtain ⟨hword, rfl⟩ := (afterWord?_eq_some_iff hrule.apart_modifiers).1 hread
    -- something that is not blank follows the modifier on its line
    have hrest : ¬ rest.dropWhile isBlank = [] := fun hnil => h <|
      (trimEnd_mem_modifiers_iff hrule).2 ⟨word, hword, rest, List.dropWhile_eq_nil_iff.1 hnil, rfl⟩
    have htake : (rest ++ tail).takeWhile isBlank = rest.takeWhile isBlank := by
      have hlength := congrArg List.length
        (List.takeWhile_append_dropWhile (p := isBlank) (l := rest))
      have hpos := List.length_pos_iff.2 hrest
      rw [List.length_append] at hlength
      rw [List.takeWhile_append, if_neg (by omega)]
    simp only [Option.map_some, Option.bind_some, Prod.map_snd, afterBlanks?_eq, htake]
    split
    · rfl
    · rw [trimStart, List.dropWhile_append, if_neg (by simpa using hrest)]
      exact declaration?_append hrule htail _

/-- In front of a line end, a text is modified as it is without it, unless it is a modifier and what
follows is its declaration. -/
theorem modified?_append (h : trimEnd s ∈ rule.modifiers → ¬ Declares rule (trimStart tail))
    (htail : EndsLine tail) :
    modified? rule (s ++ tail) =
      (modified? rule s).map (Prod.map id (· ++ tail)) := by
  by_cases hmem : trimEnd s ∈ rule.modifiers
  · -- nothing is declared behind a modifier that stands alone, and nothing on its own line
    have hnone : modified? rule s = none := by
      have hnil := modified?_append_of_mem hrule hmem (.inl rfl)
      rwa [List.append_nil, trimStart_nil, hrule.declaration?_nil] at hnil
    rw [modified?_append_of_mem hrule hmem htail, hnone]
    simpa [declares_iff hrule] using h hmem
  · exact modified?_append_of_not_mem hrule hmem htail

/-- A declaration is found in front of a line end if it is found without it. -/
theorem declares_append (htail : EndsLine tail) (s : List Char) :
    Declares rule (s ++ tail) ↔ Declares rule s := by
  rw [declares_iff hrule, declares_iff hrule, declaration?_append hrule htail, Option.isSome_map]

/-- A modifier that stands alone on its line modifies what starts behind the line end. -/
theorem startsModified_append_of_mem (h : trimEnd s ∈ rule.modifiers) (htail : EndsLine tail) :
    StartsModified rule (s ++ tail) ↔ Declares rule (trimStart tail) := by
  rw [startsModified_iff hrule, modified?_append_of_mem hrule h htail, declares_iff hrule]

/-- In front of a line end, a text starts modified if it does so without it, unless it is a modifier
and what follows is its declaration. -/
theorem startsModified_append
    (h : trimEnd s ∈ rule.modifiers → ¬ Declares rule (trimStart tail)) (htail : EndsLine tail) :
    StartsModified rule (s ++ tail) ↔ StartsModified rule s := by
  rw [startsModified_iff hrule, startsModified_iff hrule, modified?_append hrule h htail,
    Option.isSome_map]

/-- A declaration has no modifier in front. -/
theorem Declares.not_startsModified (h : Declares rule s) : ¬ StartsModified rule s := by
  rintro ⟨hword⟩
  obtain ⟨kind, rest, hkind, -, heq⟩ := h.exists_kind hrule
  exact hrule.ne_append hword hkind heq

/-- Nothing is declared in an empty text. -/
theorem Declares.ne_nil (h : Declares rule s) : s ≠ [] := by
  rintro rfl
  rw [declares_iff hrule, hrule.declaration?_nil] at h
  cases h

/-- A declaration is more than a modifier. -/
theorem Declares.trimEnd_not_mem (h : Declares rule s) : trimEnd s ∉ rule.modifiers := by
  intro hmem
  obtain ⟨word, hword, blanks, -, rfl⟩ := (trimEnd_mem_modifiers_iff hrule).1 hmem
  obtain ⟨kind, rest, hkind, -, heq⟩ := h.exists_kind hrule
  exact hrule.ne_append hword hkind heq

/-- A modifier with a declaration behind it is more than a modifier. -/
theorem StartsModified.trimEnd_not_mem (h : StartsModified rule s) :
    trimEnd s ∉ rule.modifiers := by
  intro hmem
  have hnil := (startsModified_append_of_mem hrule hmem (.inl rfl)).1 (by simpa using h)
  exact hnil.ne_nil hrule trimStart_nil

end Direct

/-! ## Removing modifiers -/

variable {c : Char} {declared : List Char} {atStart : Bool}

/-- A modifier in front of a declaration is removed where a line starts. -/
theorem stripFrom_of_modified (hblank : isBlank c = false)
    (h : modified? rule (c :: s) = some (declared, rest)) :
    stripFrom rule true (c :: s) = declared ++ stripFrom rule false rest := by
  rw [stripFrom]
  simp only [Bool.true_and, hblank, Bool.not_false, if_true]
  split
  next heq => rw [h] at heq; cases heq; rfl
  next heq => rw [h] at heq; cases heq

/-- Where a line starts without such a modifier, it stays. -/
theorem stripFrom_of_modified_none (hblank : isBlank c = false)
    (h : modified? rule (c :: s) = none) :
    stripFrom rule true (c :: s) = c :: stripFrom rule false s := by
  rw [stripFrom]
  simp only [Bool.true_and, hblank, Bool.not_false, if_true]
  split
  next heq => rw [h] at heq; cases heq
  next => rfl

/-- Blanks stay, and what stands before them on their line stays what it is. -/
theorem stripFrom_of_isBlank (hblank : isBlank c = true) :
    stripFrom rule atStart (c :: s) = c :: stripFrom rule (c = '\n' || atStart) s := by
  rw [stripFrom]
  simp [hblank]

/-- A line feed stays, and a line starts behind it. -/
theorem stripFrom_newline (s : List Char) :
    stripFrom rule atStart ('\n' :: s) = '\n' :: stripFrom rule true s :=
  stripFrom_of_isBlank isBlank_newline

/-- Behind a character that is not blank, a line stays. -/
theorem stripFrom_false_of_ne (hfeed : c ≠ '\n') :
    stripFrom rule false (c :: s) = c :: stripFrom rule false s := by
  rw [stripFrom]
  simp [hfeed]

end Source

end SnippetCheck
