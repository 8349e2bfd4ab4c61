import Mathlib.Data.List.TakeWhile
import SnippetCheck.Compiler.Convention
import SnippetCheck.Proofs.Text.Lines

/-!
# Reports In An Output

A compiler writes a diagnostic on one line: the file, the line, a column where its language has
one, the word for an error and a message (`Diagnostic.text`). Such a line is read as one report,
up to its end (`located?_text`). In a line that does not mention a source file with a colon behind
it no report starts, and the search goes on behind the line (`reports_of_unmentioned`).

What stands behind a line, nothing or a line feed and further lines, is `EndsLine` throughout.
-/

namespace SnippetCheck.Compiler

open SnippetCheck.Text

/-- A number as it is written: decimal digits, one at least. -/
structure Numeral where
  /-- The digits. -/
  digits : List Char
  /-- There is a digit. -/
  ne_nil : digits ≠ []
  /-- All of them are decimal digits. -/
  isDecimal : ∀ c ∈ digits, isDecimal c = true

/-- What a compiler says of one place in a source file. -/
structure Diagnostic (shape : ReportShape) where
  /-- The path of the file, up to its suffix. -/
  stem : List Char
  /-- The path is more than its suffix. -/
  stem_ne_nil : stem ≠ []
  /-- The path has neither blanks nor colons. -/
  stem_isPathChar : ∀ c ∈ stem, isBlank c = false ∧ c ≠ ':'
  /-- The number of the line. -/
  line : Numeral
  /-- The number of the column. -/
  column : Option Numeral
  /-- The column is given where the shape has one. -/
  isSome_column : column.isSome = shape.column
  /-- The message. -/
  message : List Char
  /-- The message is on one line. -/
  newline_not_mem : '\n' ∉ message
  /-- The message is not blank. -/
  not_blank : ∃ c ∈ message, isBlank c = false

/-- The ends of the names of source files that a shape looks for can stand in a path. -/
structure ReportShape.HasExtension (shape : ReportShape) : Prop where
  /-- No blank and no colon is in the suffix. -/
  isPathChar : ∀ c ∈ shape.suffix, isPathChar c = true
  /-- The suffix is within the last part of a path. -/
  no_slash : '/' ∉ shape.suffix
  /-- The suffix is longer than the parts that name no file. -/
  two_lt_length : 2 < shape.suffix.length

/-- The compilers of all languages report files with an extension. -/
theorem Convention.hasExtension (language : Language) : (of language).reports.HasExtension := by
  cases language with
  | java => exact ⟨List.all_eq_true.1 (by decide), by decide, by decide⟩
  | kotlin => exact ⟨List.all_eq_true.1 (by decide), by decide, by decide⟩

namespace Diagnostic

variable {shape : ReportShape}

/-- The path of the file. -/
def file (diagnostic : Diagnostic shape) : List Char :=
  diagnostic.stem ++ shape.suffix

/-- What stands between the number of the line and the word for an error. -/
def position (diagnostic : Diagnostic shape) : List Char :=
  match diagnostic.column with
  | some column => ':' :: column.digits
  | none => []

/-- The line that a diagnostic is written on. -/
def text (diagnostic : Diagnostic shape) : List Char :=
  diagnostic.file ++ ':' :: (diagnostic.line.digits ++
    (diagnostic.position ++ (": error: ".toList ++ diagnostic.message)))

/-- The report that a diagnostic is read as. -/
def located (diagnostic : Diagnostic shape) : Located where
  file := diagnostic.file
  line := diagnostic.line.digits
  message := trimStart diagnostic.message

end Diagnostic

variable {shape : ReportShape} {line s rest tail : List Char}

/-! ## The parts of a report -/

/-- A word is removed from the text that it starts. -/
private theorem skipWord?_append (word rest : List Char) :
    skipWord? word (word ++ rest) = some rest := by
  induction word with
  | nil => rfl
  | cons c word ih => simpa [skipWord?, skipChar?] using ih

/-- A path is read up to the colon behind it. -/
private theorem path?_append {suffix path : List Char}
    (hpath : ∀ c ∈ path, isPathChar c = true) (hsuffix : suffix <:+ path)
    (hlength : suffix.length < path.length) (rest : List Char) :
    path? suffix (path ++ ':' :: rest) = some (path, rest) := by
  have htake : (path ++ ':' :: rest).takeWhile isPathChar = path := by
    rw [List.takeWhile_append_of_pos hpath, List.takeWhile_cons_of_neg (by decide),
      List.append_nil]
  have hdrop : (path ++ ':' :: rest).dropWhile isPathChar = ':' :: rest := by
    rw [List.dropWhile_append_of_pos hpath, List.dropWhile_cons_of_neg (by decide)]
  simp [path?, htake, hdrop, hsuffix, hlength, skipChar?]

/-- A numeral is read up to the colon behind it. -/
private theorem number?_append (numeral : Numeral) (rest : List Char) :
    number? (numeral.digits ++ ':' :: rest) = some (numeral.digits, rest) := by
  have htake : (numeral.digits ++ ':' :: rest).takeWhile isDecimal = numeral.digits := by
    rw [List.takeWhile_append_of_pos numeral.isDecimal, List.takeWhile_cons_of_neg (by decide),
      List.append_nil]
  have hdrop : (numeral.digits ++ ':' :: rest).dropWhile isDecimal = ':' :: rest := by
    rw [List.dropWhile_append_of_pos numeral.isDecimal, List.dropWhile_cons_of_neg (by decide)]
  rw [number?, htake, hdrop]
  split
  next hnil => exact absurd hnil numeral.ne_nil
  next => simp [skipChar?]

/-- A message is read without the blanks in front of it, up to the end of its line. -/
private theorem message?_append {message : List Char} (hline : '\n' ∉ message)
    (hblank : ∃ c ∈ message, isBlank c = false) (htail : EndsLine tail) :
    message? (message ++ tail) = some (trimStart message, tail) := by
  have hne : trimStart message ≠ [] := by
    obtain ⟨c, hmem, hc⟩ := hblank
    intro hnil
    have hall := List.dropWhile_eq_nil_iff.1 hnil c hmem
    simp [hc] at hall
  have hdrop : (message ++ tail).dropWhile isBlank = trimStart message ++ tail := by
    rw [List.dropWhile_append, if_neg (by simpa [trimStart] using hne), trimStart]
  have hfeed : ∀ c ∈ trimStart message, decide (c ≠ '\n') = true := by
    intro c hmem
    simp only [decide_eq_true_eq]
    rintro rfl
    exact hline ((List.dropWhile_suffix isBlank).subset hmem)
  -- behind the message stands nothing or a line feed
  have hend : tail.takeWhile (· ≠ '\n') = [] ∧ tail.dropWhile (· ≠ '\n') = tail := by
    rcases htail with rfl | ⟨rest, rfl⟩
    · exact ⟨rfl, rfl⟩
    · simp
  rw [message?, hdrop]
  split
  next hnil => exact absurd (List.append_eq_nil_iff.1 hnil).1 hne
  next =>
    rw [List.takeWhile_append_of_pos hfeed, List.dropWhile_append_of_pos hfeed, hend.1, hend.2,
      List.append_nil]

/-! ## Diagnostics -/

/-- The position of a diagnostic is passed, up to the colon behind it. -/
private theorem number?_position (diagnostic : Diagnostic shape) (rest : List Char) :
    ∃ after, number? (diagnostic.line.digits ++ (diagnostic.position ++ ':' :: rest)) =
        some (diagnostic.line.digits, after) ∧ afterColumn? shape after = some rest := by
  have hshape := diagnostic.isSome_column
  cases hcolumn : diagnostic.column with
  | none =>
    rw [hcolumn] at hshape
    refine ⟨rest, ?_, ?_⟩
    · simpa [Diagnostic.position, hcolumn] using number?_append diagnostic.line rest
    · simp [afterColumn?, ← hshape]
  | some column =>
    rw [hcolumn] at hshape
    refine ⟨column.digits ++ ':' :: rest, ?_, ?_⟩
    · simpa [Diagnostic.position, hcolumn] using
        number?_append diagnostic.line (column.digits ++ ':' :: rest)
    · simp [afterColumn?, ← hshape, number?_append]

/-- Behind the word for an error, the message is read. -/
private theorem message?_error (diagnostic : Diagnostic shape) (htail : EndsLine tail) :
    (skipWord? errorWord ((" error: ".toList ++ (diagnostic.message ++ tail)).dropWhile
      isBlank)).bind message? = some (trimStart diagnostic.message, tail) := by
  have hdrop : (" error: ".toList ++ (diagnostic.message ++ tail)).dropWhile isBlank =
      errorWord ++ (' ' :: diagnostic.message ++ tail) := rfl
  have hline : '\n' ∉ ' ' :: diagnostic.message := by
    simpa using diagnostic.newline_not_mem
  have hblank : ∃ c ∈ ' ' :: diagnostic.message, isBlank c = false := by
    obtain ⟨c, hmem, hc⟩ := diagnostic.not_blank
    exact ⟨c, List.mem_cons_of_mem ' ' hmem, hc⟩
  rw [hdrop, skipWord?_append, Option.bind_some, message?_append hline hblank htail]
  simp [trimStart, isBlank]

/-- A diagnostic is read as its report, up to the end of its line. -/
theorem located?_text (hshape : shape.HasExtension) (diagnostic : Diagnostic shape)
    (htail : EndsLine tail) :
    located? shape (diagnostic.text ++ tail) = some (diagnostic.located, tail) := by
  have hpath : ∀ c ∈ diagnostic.file, isPathChar c = true := by
    intro c hmem
    rcases List.mem_append.1 hmem with hstem | hsuffix
    · obtain ⟨hblank, hcolon⟩ := diagnostic.stem_isPathChar c hstem
      simp [isPathChar, hblank, hcolon]
    · exact hshape.isPathChar c hsuffix
  have hlength : shape.suffix.length < diagnostic.file.length := by
    have := List.length_pos_iff.2 diagnostic.stem_ne_nil
    rw [Diagnostic.file, List.length_append]
    omega
  have htext : diagnostic.text ++ tail = diagnostic.file ++ ':' :: (diagnostic.line.digits ++
      (diagnostic.position ++ ':' :: (" error: ".toList ++ (diagnostic.message ++ tail)))) := by
    simp [Diagnostic.text]
  obtain ⟨after, hline, hcolumn⟩ :=
    number?_position diagnostic (" error: ".toList ++ (diagnostic.message ++ tail))
  obtain ⟨afterWord, hword, hmessage⟩ :=
    Option.bind_eq_some_iff.1 (message?_error diagnostic htail)
  simp only [located?, htext, path?_append hpath (List.suffix_append _ _) hlength, hline, hcolumn,
    hword, hmessage, Option.bind_eq_bind, Option.bind_some]
  rfl

/-! ## Other lines -/

/-- A path that is read ends in the suffix, and a colon stands behind it. -/
private theorem path?_eq_some {suffix path : List Char} (h : path? suffix s = some (path, rest)) :
    suffix <:+ path ∧ (∀ c ∈ path, isPathChar c = true) ∧ s = path ++ ':' :: rest := by
  rw [path?] at h
  split at h
  case isFalse => cases h
  case isTrue hsuffix =>
    obtain ⟨after, hafter, heq⟩ := Option.map_eq_some_iff.1 h
    obtain ⟨rfl, rfl⟩ := Prod.mk.inj heq
    rw [Bool.and_eq_true, List.isSuffixOf_iff_suffix] at hsuffix
    refine ⟨hsuffix.1, fun c hmem => List.all_eq_true.1 List.all_takeWhile c hmem, ?_⟩
    have hdrop : s.dropWhile isPathChar = ':' :: after := by
      cases hrest : s.dropWhile isPathChar with
      | nil =>
        rw [hrest] at hafter
        cases hafter
      | cons c rest =>
        rw [hrest, skipChar?, Option.ite_none_right_eq_some, Option.some.injEq] at hafter
        rw [hafter.1, hafter.2]
    rw [← hdrop, List.takeWhile_append_dropWhile]

/-- No report starts in a line that does not mention a source file with a colon behind it: a path
does not go on behind the end of the line. -/
private theorem located?_of_unmentioned (hline : ¬ shape.suffix ++ [':'] <:+: line)
    (htail : EndsLine tail) : located? shape (line ++ tail) = none := by
  cases hpath : path? shape.suffix (line ++ tail) with
  | none => simp [located?, hpath]
  | some found =>
    obtain ⟨path, rest⟩ := found
    obtain ⟨hsuffix, hchars, heq⟩ := path?_eq_some hpath
    have hfeed : '\n' ∉ path ++ [':'] := by
      intro hmem
      rcases List.mem_append.1 hmem with hmem | hmem
      · exact absurd (hchars '\n' hmem) (by decide)
      · simp at hmem
    have hprefix : path ++ [':'] <+: line :=
      htail.prefix_of_prefix hfeed ⟨rest, by simp [heq]⟩
    obtain ⟨front, rfl⟩ := hsuffix
    -- the suffix and the colon end what starts the line
    have hmentioned : shape.suffix ++ [':'] <:+: front ++ shape.suffix ++ [':'] :=
      ⟨front, [], by simp⟩
    exact absurd (hmentioned.trans hprefix.isInfix) hline

/-! ## The search -/

/-- There are no reports in an empty text. -/
theorem reports_nil : reports shape [] = [] := by
  rw [reports]
  split
  next report rest hfound => simp [located?, path?] at hfound
  next => rfl

/-- A report that starts a text is found, and the search goes on behind it. -/
private theorem reports_of_located? {report : Located}
    (h : located? shape s = some (report, rest)) :
    reports shape s = report :: reports shape rest := by
  rw [reports]
  split
  next other after hfound =>
    rw [h] at hfound
    cases hfound
    rfl
  next hnone =>
    rw [h] at hnone
    cases hnone

/-- Where no report starts, the search goes on behind a character. -/
private theorem reports_cons_of_none {c : Char} (h : located? shape (c :: s) = none) :
    reports shape (c :: s) = reports shape s := by
  rw [reports]
  split
  next other after hfound =>
    rw [h] at hfound
    cases hfound
  next => rfl

/-- The search goes on behind a line that does not mention a source file with a colon behind
it. -/
theorem reports_of_unmentioned (hline : ¬ shape.suffix ++ [':'] <:+: line)
    (htail : EndsLine tail) : reports shape (line ++ tail) = reports shape tail := by
  induction line with
  | nil => rfl
  | cons c line ih =>
    have hnone := located?_of_unmentioned hline htail
    rw [List.cons_append] at hnone ⊢
    rw [reports_cons_of_none hnone]
    exact ih fun hmentioned => hline (hmentioned.trans (List.suffix_cons c line).isInfix)

/-- A diagnostic is found as its report. -/
theorem reports_text (hshape : shape.HasExtension) (diagnostic : Diagnostic shape)
    (htail : EndsLine tail) :
    reports shape (diagnostic.text ++ tail) = diagnostic.located :: reports shape tail :=
  reports_of_located? (located?_text hshape diagnostic htail)

/-- The search goes on behind a line feed. -/
theorem reports_newline (s : List Char) : reports shape ('\n' :: s) = reports shape s := by
  apply reports_cons_of_none
  simp [located?, path?, isPathChar]

end SnippetCheck.Compiler
