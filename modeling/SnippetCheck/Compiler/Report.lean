import SnippetCheck.Files.Path
import SnippetCheck.Text.Blank
import SnippetCheck.Text.Letters
import SnippetCheck.Text.Word

/-!
# Compiler Reports

A compiler reports an error as the path of a source file, a line number, possibly a column,
the word `error:` and a message, separated by colons. Reports are found in a compiler's
output from left to right, and each becomes one line of text. Output without any report is
searched for lines that mention an error at all.

Each step of reading a report leaves no more text than it was given, so that a whole report
leaves less (`length_lt_of_located?`) and the search ends.
-/

namespace SnippetCheck.Compiler

open SnippetCheck.Text

/-- An error that a compiler located in a source file. -/
structure Located where
  /-- The path of the source file. -/
  file : List Char
  /-- The line number, as written. -/
  line : List Char
  /-- The message, as written. -/
  message : List Char
  deriving DecidableEq, Repr

/-- How a compiler writes its reports. -/
structure ReportShape where
  /-- How the names of source files end. -/
  suffix : List Char
  /-- Whether a column follows the line number. -/
  column : Bool
  deriving DecidableEq, Repr

/-- The character `c` at the front of a text, removed. -/
def skipChar? (c : Char) : List Char → Option (List Char)
  | [] => none
  | d :: s => if d = c then some s else none

/-- A word at the front of a text, removed. -/
def skipWord? : List Char → List Char → Option (List Char)
  | [], s => some s
  | c :: word, s => (skipChar? c s).bind (skipWord? word)

/-- Whether a character may stand in the path of a report. -/
def isPathChar (c : Char) : Bool :=
  !isBlank c && c != ':'

/-- The path at the front of a text and what follows the colon after it. -/
def path? (suffix : List Char) (s : List Char) : Option (List Char × List Char) :=
  let path := s.takeWhile isPathChar
  if suffix.isSuffixOf path && suffix.length < path.length then
    (skipChar? ':' (s.dropWhile isPathChar)).map fun rest => (path, rest)
  else none

/-- The number at the front of a text and what follows the colon after it. -/
def number? (s : List Char) : Option (List Char × List Char) :=
  match s.takeWhile isDecimal with
  | [] => none
  | digits => (skipChar? ':' (s.dropWhile isDecimal)).map fun rest => (digits, rest)

/-- The message at the front of a text, and what follows it. A message runs from the first
character that is not blank to the end of its line. Where there is none, the last blank that
is not a line feed stands for an empty message. -/
def message? (s : List Char) : Option (List Char × List Char) :=
  match s.dropWhile isBlank with
  | [] =>
    match s.reverse.dropWhile (· = '\n') with
    | [] => none
    | c :: _ => some ([c], s.reverse.takeWhile (· = '\n'))
  | text => some (text.takeWhile (· ≠ '\n'), text.dropWhile (· ≠ '\n'))

/-- What announces the message. -/
def errorWord : List Char := "error:".toList

/-- What follows the column, or the text itself if there is none. -/
def afterColumn? (shape : ReportShape) (s : List Char) : Option (List Char) :=
  if shape.column then (number? s).map Prod.snd else some s

/-- The report that starts a text, and what follows it. -/
def located? (shape : ReportShape) (s : List Char) : Option (Located × List Char) := do
  let (file, s) ← path? shape.suffix s
  let (line, s) ← number? s
  let s ← afterColumn? shape s
  let s ← skipWord? errorWord (s.dropWhile isBlank)
  let (message, s) ← message? s
  return (⟨file, line, message⟩, s)

/-- A removed character makes a text shorter by one. -/
theorem length_of_skipChar? {c : Char} {s rest : List Char} (h : skipChar? c s = some rest) :
    rest.length + 1 = s.length := by
  cases s with
  | nil => cases h
  | cons d s =>
    simp only [skipChar?] at h
    split at h
    · cases h; rfl
    · cases h

/-- A removed word does not make a text longer. -/
theorem length_le_of_skipWord? {word s rest : List Char} (h : skipWord? word s = some rest) :
    rest.length ≤ s.length := by
  induction word generalizing s with
  | nil => cases h; exact Nat.le_refl _
  | cons c word ih =>
    obtain ⟨t, ht, hrest⟩ := Option.bind_eq_some_iff.1 h
    have := length_of_skipChar? ht
    have := ih hrest
    omega

/-- Removed leading characters do not make a text longer. -/
theorem length_dropWhile_le (p : Char → Bool) (s : List Char) :
    (s.dropWhile p).length ≤ s.length :=
  (List.dropWhile_suffix p).length_le

/-- What follows a path is shorter. -/
theorem length_lt_of_path? {suffix s path rest : List Char}
    (h : path? suffix s = some (path, rest)) : rest.length < s.length := by
  simp only [path?] at h
  split at h
  · obtain ⟨t, ht, heq⟩ := Option.map_eq_some_iff.1 h
    simp only [Prod.mk.injEq] at heq
    have := length_of_skipChar? ht
    have := length_dropWhile_le isPathChar s
    rw [← heq.2]
    omega
  · cases h

/-- What follows a number is not longer. -/
theorem length_le_of_number? {s digits rest : List Char}
    (h : number? s = some (digits, rest)) : rest.length ≤ s.length := by
  simp only [number?] at h
  split at h
  · cases h
  · obtain ⟨t, ht, heq⟩ := Option.map_eq_some_iff.1 h
    simp only [Prod.mk.injEq] at heq
    have := length_of_skipChar? ht
    have := length_dropWhile_le isDecimal s
    rw [← heq.2]
    omega

/-- What follows a message is not longer. -/
theorem length_le_of_message? {s message rest : List Char}
    (h : message? s = some (message, rest)) : rest.length ≤ s.length := by
  simp only [message?] at h
  split at h
  · split at h
    · cases h
    · simp only [Option.some.injEq, Prod.mk.injEq] at h
      rw [← h.2]
      simpa using (List.takeWhile_prefix (l := s.reverse) (· = '\n')).length_le
  · simp only [Option.some.injEq, Prod.mk.injEq] at h
    rw [← h.2]
    exact Nat.le_trans (length_dropWhile_le _ _) (length_dropWhile_le _ _)

/-- What follows a column is not longer. -/
theorem length_le_of_afterColumn? {shape : ReportShape} {s rest : List Char}
    (h : afterColumn? shape s = some rest) : rest.length ≤ s.length := by
  simp only [afterColumn?] at h
  split at h
  · obtain ⟨⟨digits, r⟩, hr, rfl⟩ := Option.map_eq_some_iff.1 h
    exact length_le_of_number? hr
  · cases h
    exact Nat.le_refl _

/-- What follows a report is shorter than the text it starts. -/
theorem length_lt_of_located? {shape : ReportShape} {s rest : List Char} {report : Located}
    (h : located? shape s = some (report, rest)) : rest.length < s.length := by
  simp only [located?, Option.bind_eq_bind, Option.bind_eq_some_iff, Prod.exists,
    Option.pure_def, Option.some.injEq, Prod.mk.injEq] at h
  obtain ⟨file, s₁, h₁, line, s₂, h₂, s₃, h₃, s₄, h₄, message, s₅, h₅, _, rfl⟩ := h
  have := length_lt_of_path? h₁
  have := length_le_of_number? h₂
  have := length_le_of_afterColumn? h₃
  have := length_le_of_skipWord? h₄
  have := length_dropWhile_le isBlank s₃
  have := length_le_of_message? h₅
  omega

/-- The reports in a text, in order. -/
def reports (shape : ReportShape) (s : List Char) : List Located :=
  match _h : located? shape s with
  | some (report, rest) => report :: reports shape rest
  | none =>
    match s with
    | [] => []
    | _ :: s => reports shape s
termination_by s.length
decreasing_by
  · exact length_lt_of_located? ‹_›
  · simp

/-- A report as a line of text. The unit under compilation is not named again. -/
def Located.describe (unitFile : String) (report : Located) : String :=
  let name := (Path.fileNameChars report.file).getD []
  let line := String.ofList report.line
  let message := String.ofList (trim report.message)
  if String.ofList name = unitFile then s!"  line {line}: {message}"
  else s!"  {String.ofList name}:{line}: {message}"

/-- The trimmed lines of an output that mention an error, in any case. -/
def errorLines (output : List Char) : List String :=
  ((readLines output).filter fun line => contains errorWord (lower line)).map fun line =>
    "  " ++ String.ofList (trim line)

/-- The lines that describe the errors in an output: one for each report, or the lines that
mention an error when there is no report. -/
def describeErrors (unitFile : String) (output : List Char) : List Located → List String
  | [] => errorLines output
  | reports => reports.map (Located.describe unitFile)

end SnippetCheck.Compiler
