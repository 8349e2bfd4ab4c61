import SnippetCheck.ClassName
import SnippetCheck.Proofs.Text.Slug
import SnippetCheck.Text.Identifier

/-!
# What Class Names Are Made Of

A class name consists of ASCII letters, digits and underscores, whatever the paths of the
documents (`isWordChar_of_mem_allocate`), and starts with a letter that no reserved word starts
with. So class names are identifiers, which the form of slugs makes possible
(`ClassName.slugs_and_names`).
-/

namespace SnippetCheck

namespace Text

/-- ASCII letters, digits and underscores. -/
def isWordChar (c : Char) : Bool :=
  isAsciiAlnum c || c = '_'

/-- A slug consists of letters, digits and underscores. -/
theorem isWordChar_of_mem_slug {s : List Char} {c : Char} (h : c ∈ slug s) :
    isWordChar c = true := by
  have hrest (gap : Bool) (s : List Char) (h : c ∈ slugRest gap s) : isWordChar c = true := by
    induction s generalizing gap with
    | nil => simp [slugRest] at h
    | cons first s ih =>
      rw [slugRest] at h
      split at h
      next hkept =>
        split at h
        all_goals simp only [List.mem_cons] at h
        · rcases h with rfl | rfl | h
          · rfl
          · simp [isWordChar, hkept]
          · exact ih false h
        · rcases h with rfl | h
          · simp [isWordChar, hkept]
          · exact ih false h
      next => exact ih true h
  exact hrest false _ h

/-- A padded numeral consists of digits. -/
theorem isDigit_of_mem_decimalPadded {width n : Nat} {c : Char} (h : c ∈ decimalPadded width n) :
    c.isDigit = true := by
  rcases List.mem_append.1 h with hzero | hdigit
  · rw [(List.mem_replicate.1 hzero).2]
    rfl
  · exact Nat.isDigit_of_mem_toDigits (by decide) (by decide) hdigit

end Text

namespace Sha256

open Text

/-- The lower-case hexadecimal digits are letters and digits. -/
private theorem isAsciiAlnum_digitChar : ∀ n < 16, isAsciiAlnum (Nat.digitChar n) = true := by
  decide

/-- A digest is written with letters and digits. -/
theorem isAsciiAlnum_of_mem_hexDigest {s : String} {c : Char} (h : c ∈ (hexDigest s).toList) :
    isAsciiAlnum c = true := by
  simp only [hexDigest, String.toList_ofList, List.mem_flatMap, hexByte, List.mem_cons,
    List.not_mem_nil, or_false] at h
  obtain ⟨byte, -, rfl | rfl⟩ := h
  · have hbyte := byte.toNat_lt
    exact isAsciiAlnum_digitChar _ (by omega)
  · exact isAsciiAlnum_digitChar _ (Nat.mod_lt _ (by decide))

end Sha256

namespace ClassName

open Text

variable {tag name : String} {snippets : List Snippet} {c : Char}

/-- The gap between two parts of a name is an underscore. -/
private theorem isWordChar_of_mem_gap : ∀ c ∈ "_".toList, isWordChar c = true :=
  List.all_eq_true.1 (by decide)

/-- A base name consists of letters, digits and underscores, if the tag does. -/
private theorem isWordChar_of_mem_base (htag : ∀ c ∈ tag.toList, isWordChar c = true)
    {snippet : Snippet} (h : c ∈ (base tag snippet).toList) : isWordChar c = true := by
  have hlead : ∀ c ∈ "Snippet_".toList, isWordChar c = true := List.all_eq_true.1 (by decide)
  simp only [base, toString, String.toList_append, List.mem_append] at h
  rcases h with ((((h | h) | h) | h) | h) | h
  · exact hlead c h
  · exact htag c h
  · exact isWordChar_of_mem_gap c h
  · rw [slugOf, String.toList_ofList] at h
    exact isWordChar_of_mem_slug h
  · exact isWordChar_of_mem_gap c h
  · rw [String.toList_ofList] at h
    simp [isWordChar, isAsciiAlnum, isDigit_of_mem_decimalPadded h]

/-- A class name consists of letters, digits and underscores, if the tag does. -/
theorem isWordChar_of_mem_allocate (htag : ∀ c ∈ tag.toList, isWordChar c = true)
    (hname : name ∈ allocate tag snippets) (h : c ∈ name.toList) : isWordChar c = true := by
  obtain ⟨snippet, -, rfl⟩ := List.mem_map.1 hname
  dsimp only at h
  split at h
  next =>
    simp only [toString, String.toList_append, List.mem_append] at h
    rcases h with (h | h) | h
    · exact isWordChar_of_mem_base htag h
    · exact isWordChar_of_mem_gap c h
    · rw [shortDigest, String.toList_ofList] at h
      simp [isWordChar, Sha256.isAsciiAlnum_of_mem_hexDigest (List.mem_of_mem_take h)]
  next => exact isWordChar_of_mem_base htag h

/-- The tags of languages consist of letters. -/
theorem isWordChar_of_mem_tag (language : Language) :
    ∀ c ∈ language.tag.toList, isWordChar c = true := by
  cases language <;> exact List.all_eq_true.1 (by decide)

/-- A base name starts with a capital letter. -/
private theorem exists_toList_base (tag : String) (snippet : Snippet) :
    ∃ rest, (base tag snippet).toList = 'S' :: rest := by
  simp [base, toString]

/-- A class name starts with a capital letter. -/
private theorem exists_toList_of_mem_allocate (h : name ∈ allocate tag snippets) :
    ∃ rest, name.toList = 'S' :: rest := by
  obtain ⟨snippet, -, rfl⟩ := List.mem_map.1 h
  obtain ⟨rest, hbase⟩ := exists_toList_base tag snippet
  dsimp only
  split
  next => simp [toString, hbase]
  next => exact ⟨rest, hbase⟩

/-- A class name is not empty. -/
theorem ne_empty_of_mem_allocate (h : name ∈ allocate tag snippets) : name ≠ "" := by
  obtain ⟨rest, hname⟩ := exists_toList_of_mem_allocate h
  rintro rfl
  cases hname

/-! ## Legal names -/

/-- No reserved word starts with this letter. -/
private theorem head?_ne_of_mem_keywords :
    ∀ keyword ∈ keywords, keyword.toList.head? ≠ some 'S' := by
  decide

/-- Letters, digits and underscores make up an identifier, if the first one is this letter. -/
private theorem isIdentifier_of_isWordChar (hstart : ∃ rest, name.toList = 'S' :: rest)
    (h : ∀ c ∈ name.toList, isWordChar c = true) : IsIdentifier name.toList := by
  obtain ⟨rest, hname⟩ := hstart
  refine ⟨⟨'S', rest, hname, rfl, fun d hd => h d (by simp [hname, hd])⟩, ?_⟩
  rw [String.ofList_toList]
  intro hkeyword
  exact head?_ne_of_mem_keywords name hkeyword (by simp [hname])

/-- The names of classes, and those that several of them share, are identifiers. -/
private theorem isIdentifier_of_mem (htag : ∀ c ∈ tag.toList, isWordChar c = true)
    (h : name ∈ allocate tag snippets ++ collisions tag snippets) : IsIdentifier name.toList := by
  rcases List.mem_append.1 h with h | h
  · exact isIdentifier_of_isWordChar (exists_toList_of_mem_allocate h)
      fun _ hc => isWordChar_of_mem_allocate htag h hc
  · -- what several classes share are base names
    rw [collisions, List.mem_mergeSort, List.mem_filter, List.mem_eraseDups] at h
    obtain ⟨snippet, -, rfl⟩ := List.mem_map.1 h.1
    exact isIdentifier_of_isWordChar (exists_toList_base tag snippet)
      fun _ hc => isWordChar_of_mem_base htag hc

/-- A slug is the maximal runs of letters and digits of its text, joined by underscores, so that it
tells these runs and nothing else; and class names, which contain slugs, are identifiers without
separators of paths and without dots. -/
theorem slugs_and_names :
    (∀ text : String,
      (∀ found, HasRuns text.toList found ↔ found = runs text.toList) ∧
      (slugOf text).toList = joinWith '_' (runs text.toList) ∧
      slugOf (slugOf text) = slugOf text ∧
      (∀ c ∈ (slugOf text).toList, isWordChar c = true) ∧
      ¬ ['_', '_'] <:+: (slugOf text).toList ∧
      ¬ ['_'] <+: (slugOf text).toList ∧ ¬ ['_'] <:+ (slugOf text).toList ∧
      ∀ other : String, slugOf text = slugOf other ↔ runs text.toList = runs other.toList) ∧
    ∀ (language : Language) (snippets : List Snippet),
      ∀ name ∈ allocate language.tag snippets ++ collisions language.tag snippets,
        identifierFault? name.toList = none ∧
          '/' ∉ name.toList ∧ '\\' ∉ name.toList ∧ '.' ∉ name.toList := by
  constructor
  · intro text
    simp only [slugOf, String.toList_ofList, slug_slug, String.ofList_inj, slug_eq_slug_iff,
      true_and, implies_true, and_true]
    exact ⟨fun _ => hasRuns_iff, slug_eq_joinWith _, fun _ => isWordChar_of_mem_slug,
      underscores_slug _⟩
  · intro language snippets name hname
    have hidentifier := isIdentifier_of_mem (isWordChar_of_mem_tag language) hname
    refine ⟨(identifierFault?_eq_none_iff _).2 hidentifier, ?_, ?_, ?_⟩
    all_goals
      intro hmem
      exact absurd (hidentifier.isNamePart_of_mem hmem) (by decide)

/-- Two documents whose paths have the same runs have names that differ by a digest, one whose path
has no runs has a name all the same, and these names are identifiers. -/
theorem slugs_and_names_samples :
    let snippets : List Snippet :=
      [⟨⟨"é", 0⟩, ""⟩, ⟨⟨"a b.md", 12⟩, ""⟩, ⟨⟨"a-b.md", 12⟩, ""⟩]
    allocate Language.kotlin.tag snippets = ["Snippet_kotlin__000",
        "Snippet_kotlin_a_b_md_012_10ad72d8", "Snippet_kotlin_a_b_md_012_d8f2f1c5"] ∧
      identifierFault? "Snippet_kotlin__000".toList = none ∧
      identifierFault? "Snippet_kotlin_a_b_md_012_10ad72d8".toList = none := by
  intro snippets
  have hnames : allocate Language.kotlin.tag snippets = ["Snippet_kotlin__000",
      "Snippet_kotlin_a_b_md_012_10ad72d8", "Snippet_kotlin_a_b_md_012_d8f2f1c5"] := by
    decide +kernel
  have hlegal (name : String) (h : name ∈ allocate Language.kotlin.tag snippets) :
      identifierFault? name.toList = none :=
    (slugs_and_names.2 .kotlin snippets name (List.mem_append_left _ h)).1
  exact ⟨hnames, hlegal _ (by simp [hnames]), hlegal _ (by simp [hnames])⟩

end ClassName

end SnippetCheck
