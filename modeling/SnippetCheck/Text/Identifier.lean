import SnippetCheck.Text.Lines

/-!
# Identifiers And Qualified Names

A name is an identifier if it starts with an ASCII letter or an underscore, goes on with
ASCII letters, digits and underscores, and is no reserved word of either language. A
qualified name is a sequence of identifiers separated by dots.

The faults of a name are told apart for the sake of messages; `identifierFault?_eq_none_iff` says
that a name without a fault is an identifier, and an identifier has none.
-/

namespace SnippetCheck

open SnippetCheck.Text

/-- Reserved words of the languages, none of which can name a package part or a type. -/
def keywords : List String :=
  ["abstract", "assert", "boolean", "break", "byte", "case", "catch", "char", "class", "const",
    "continue", "default", "do", "double", "else", "enum", "extends", "final", "finally", "float",
    "for", "goto", "if", "implements", "import", "instanceof", "int", "interface", "long",
    "native", "new", "package", "private", "protected", "public", "return", "short", "static",
    "strictfp", "super", "switch", "synchronized", "this", "throw", "throws", "transient", "try",
    "void", "volatile", "while", "true", "false", "null",
    "as", "fun", "in", "is", "object", "typealias", "typeof", "val", "var", "when"]

/-- What is wrong with a name. -/
inductive NameFault where
  /-- There is no name. -/
  | empty
  /-- A part between dots is empty. -/
  | emptySegment
  /-- The first character starts no identifier. -/
  | badStart
  /-- A later character is part of no identifier. -/
  | badCharacter
  /-- The name is reserved. -/
  | keyword
  deriving DecidableEq, Repr

/-- The message for a fault. -/
def NameFault.message : NameFault → String
  | .empty => "name cannot be empty"
  | .emptySegment => "name cannot contain empty segments"
  | .badStart => "name must start with a letter or underscore"
  | .badCharacter => "name must contain only letters, numbers and underscores"
  | .keyword => "name is a reserved keyword"

/-- Characters that may start an identifier. -/
def isNameStart (c : Char) : Bool :=
  c.isAlpha || c = '_'

/-- Characters that may stand in an identifier. -/
def isNamePart (c : Char) : Bool :=
  c.isAlpha || c.isDigit || c = '_'

/-- The first fault of a name as an identifier. -/
def identifierFault? : List Char → Option NameFault
  | [] => some .empty
  | c :: name =>
    if !isNameStart c then some .badStart
    else if !name.all isNamePart then some .badCharacter
    else if keywords.contains (String.ofList (c :: name)) then some .keyword
    else none

/-- The first fault of a part of a qualified name. -/
def segmentFault? (segment : List Char) : Option NameFault :=
  if segment.isEmpty then some .emptySegment else identifierFault? segment

/-- The first fault of a qualified name. -/
def qualifiedFault? (name : List Char) : Option NameFault :=
  if name.isEmpty then some .empty else (splitAt '.' name).findSome? segmentFault?

/-- A name without the `.*` that ends an import of all names of a package. -/
def withoutWildcard (name : List Char) : List Char :=
  if ['.', '*'].isSuffixOf name then name.take (name.length - 2) else name

/-- A legal identifier that is no reserved word. -/
def IsIdentifier (name : List Char) : Prop :=
  (∃ c rest, name = c :: rest ∧ isNameStart c = true ∧ ∀ d ∈ rest, isNamePart d = true) ∧
    String.ofList name ∉ keywords

/-- A name has no fault as an identifier exactly when it is one. -/
theorem identifierFault?_eq_none_iff (name : List Char) :
    identifierFault? name = none ↔ IsIdentifier name := by
  cases name with
  | nil => simp [identifierFault?, IsIdentifier]
  | cons c rest =>
    simp only [identifierFault?, IsIdentifier, List.cons.injEq]
    by_cases hstart : isNameStart c = true
    · by_cases hall : rest.all isNamePart = true
      -- the faults are checked in turn, so each case leaves one check to look at
      · have hall' := List.all_eq_true.1 hall
        by_cases hkey : String.ofList (c :: rest) ∈ keywords
        · simp only [hstart, hall, List.contains_iff_mem, hkey]
          simp only [Bool.not_true, Bool.false_eq_true, ↓reduceIte, not_true_eq_false, and_false,
            reduceCtorEq]
        · simp only [hstart, hall, List.contains_iff_mem, hkey]
          simp only [Bool.not_true, Bool.false_eq_true, ↓reduceIte, not_false_eq_true, and_true,
            true_iff]
          exact ⟨c, rest, ⟨rfl, rfl⟩, hstart, hall'⟩
      · simp only [hstart, Bool.not_true, Bool.false_eq_true, ↓reduceIte, hall, Bool.not_false,
          reduceCtorEq, false_iff, not_and]
        rintro ⟨d, rest', ⟨_, rfl⟩, _, hrest⟩
        exact absurd (List.all_eq_true.2 hrest) hall
    · simp only [hstart, Bool.not_false, ↓reduceIte, reduceCtorEq, false_iff, not_and]
      rintro ⟨d, rest', ⟨rfl, _⟩, hd, _⟩
      exact absurd hd hstart

/-- An identifier consists of letters, digits and underscores. -/
theorem IsIdentifier.isNamePart_of_mem {name : List Char} {c : Char} (h : IsIdentifier name)
    (hc : c ∈ name) : isNamePart c = true := by
  obtain ⟨⟨first, rest, rfl, hstart, hrest⟩, -⟩ := h
  rcases List.mem_cons.1 hc with rfl | hc
  · rw [isNameStart, Bool.or_eq_true] at hstart
    rcases hstart with hstart | hstart <;> simp [isNamePart, hstart]
  · exact hrest c hc

end SnippetCheck
