import Mathlib.Data.List.DropRight
import Mathlib.Data.List.Infix
import SnippetCheck.Proofs.Compiler.Report
import SnippetCheck.Proofs.Files.Parent
import SnippetCheck.Proofs.Text.Returns

/-!
# What Is Said Of An Output

An output is lines of two kinds: diagnostics, and lines that do not mention a source file with a
colon behind it. The search finds the diagnostics in their order (`reports_joinLines`), and each is
described by the name of its file, its line and its message (`describe_located`). Without
diagnostics, the lines that mention an error are given instead.

## Main results

* `errors_of_lines`: what is said of an output, line by line;
* `errors_unlike_lines`: lines that mention an error are not given bare, but indented.
-/

namespace SnippetCheck.Compiler

open SnippetCheck.Text

/-- A line of an output. -/
inductive OutputLine (shape : ReportShape) where
  /-- A diagnostic. -/
  | diagnostic (diagnostic : Diagnostic shape)
  /-- A line that does not mention a source file with a colon behind it. -/
  | noise (text : List Char) (newline_not_mem : '\n' ∉ text)
      (unmentioned : ¬ shape.suffix ++ [':'] <:+: text)

/-- What stands behind the last slash of a path. -/
def lastComponent (path : List Char) : List Char :=
  (path.reverse.takeWhile (· ≠ '/')).reverse

variable {shape : ReportShape}

namespace OutputLine

/-- The text of a line. -/
def text : OutputLine shape → List Char
  | .diagnostic given => given.text
  | .noise other _ _ => other

/-- The diagnostic on a line. -/
def diagnostic? : OutputLine shape → Option (Diagnostic shape)
  | .diagnostic given => some given
  | .noise _ _ _ => none

end OutputLine

/-- What is said of a diagnostic when a unit is compiled: the number of the line and the trimmed
message, with the name of the file if it is not that of the unit. -/
def Diagnostic.summary (unitFile : String) (diagnostic : Diagnostic shape) : String :=
  let name := String.ofList (lastComponent diagnostic.file)
  let line := String.ofList diagnostic.line.digits
  let message := String.ofList (trim diagnostic.message)
  if name = unitFile then s!"  line {line}: {message}" else s!"  {name}:{line}: {message}"

/-! ## Diagnostics -/

/-- The suffix ends the last component of a path that it ends. -/
private theorem lastComponent_append {suffix : List Char} (hslash : '/' ∉ suffix)
    (stem : List Char) : lastComponent (stem ++ suffix) = lastComponent stem ++ suffix := by
  have hsuffix : ∀ c ∈ suffix.reverse, decide (c ≠ '/') = true := by
    intro c hmem
    simp only [decide_eq_true_eq]
    rintro rfl
    exact hslash (List.mem_reverse.1 hmem)
  rw [lastComponent, List.reverse_append, List.takeWhile_append_of_pos hsuffix,
    List.reverse_append, List.reverse_reverse, lastComponent]

/-- The file of a diagnostic is named by the last component of its path. -/
private theorem fileNameChars_file (hshape : shape.HasExtension) (diagnostic : Diagnostic shape) :
    Path.fileNameChars diagnostic.file = some (lastComponent diagnostic.file) := by
  have hlength : 2 < (lastComponent diagnostic.file).length := by
    have := hshape.two_lt_length
    rw [Diagnostic.file, lastComponent_append hshape.no_slash, List.length_append]
    omega
  -- a part that is silent or leads up has two characters at most
  have hsilent : Path.isSilent (lastComponent diagnostic.file) = false := by
    rw [Path.isSilent, Bool.or_eq_false_iff, List.isEmpty_eq_false_iff, decide_eq_false_iff_not]
    refine ⟨fun h => ?_, fun h => ?_⟩ <;> simp [h] at hlength
  have hup : lastComponent diagnostic.file ≠ ['.', '.'] := by
    intro h
    simp [h] at hlength
  obtain ⟨before, hbefore⟩ := exists_splitAt_eq_append '/' diagnostic.file
  have hname := Files.fileName?_of_splitAt hsilent hup hbefore
  rw [Path.fileName?, String.toList_ofList, Option.map_eq_some_iff] at hname
  obtain ⟨chars, hchars, heq⟩ := hname
  rw [hchars, String.ofList_injective heq]

/-- The blanks in front of a message do not matter when it is trimmed. -/
private theorem trim_trimStart (s : List Char) : trim (trimStart s) = trim s := by
  rw [trim, trim, trimStart, trimStart, List.dropWhile_idempotent]

/-- A diagnostic is described by the name of its file, its line and its message. -/
theorem describe_located (hshape : shape.HasExtension) (unitFile : String)
    (diagnostic : Diagnostic shape) :
    diagnostic.located.describe unitFile = diagnostic.summary unitFile := by
  simp only [Located.describe, Diagnostic.located, fileNameChars_file hshape, Option.getD_some,
    trim_trimStart, Diagnostic.summary]

/-! ## Lines -/

/-- A line is searched up to its end. -/
private theorem reports_text_append (hshape : shape.HasExtension) (line : OutputLine shape)
    {tail : List Char} (htail : EndsLine tail) :
    reports shape (line.text ++ tail) =
      (line.diagnostic?.map Diagnostic.located).toList ++ reports shape tail := by
  cases line with
  | diagnostic diagnostic => exact reports_text hshape diagnostic htail
  | noise text _ hnoise => exact reports_of_unmentioned hnoise htail

/-- Lines that follow a line are searched like an output of their own. -/
private theorem reports_following (texts : List (List Char)) :
    reports shape (following texts) = reports shape (joinLines texts) := by
  cases texts with
  | nil => rfl
  | cons text texts => rw [following_cons, reports_newline, joinLines_cons]

/-- The reports in an output are those of its diagnostics, in order. -/
theorem reports_joinLines (hshape : shape.HasExtension) (lines : List (OutputLine shape)) :
    reports shape (joinLines (lines.map OutputLine.text)) =
      (lines.filterMap OutputLine.diagnostic?).map Diagnostic.located := by
  induction lines with
  | nil => exact reports_nil
  | cons line lines ih =>
    rw [List.map_cons, joinLines_cons, reports_text_append hshape line (endsLine_following _),
      reports_following, ih]
    cases line with
    | diagnostic => rfl
    | noise => rfl

/-- A carriage return behind a line does not matter to whether the line mentions an error. -/
private theorem contains_errorWord_return (line : List Char) :
    contains errorWord (lower (line ++ ['\r'])) = contains errorWord (lower line) := by
  have hlower : lower (line ++ ['\r']) = lower line ++ ['\r'] := by
    rw [lower, List.map_append]
    rfl
  rw [Bool.eq_iff_iff, contains_eq_true_iff, contains_eq_true_iff, hlower, List.infix_concat_iff]
  refine ⟨?_, .inr⟩
  rintro (hsuffix | hmentioned)
  · -- the word does not end in a carriage return
    have hlast := hsuffix.getLast (by decide)
    rw [List.getLast_concat] at hlast
    exact absurd hlast (by decide)
  · exact hmentioned

/-- Lines that mention an error are given trimmed and indented. It does not matter whether the
carriage returns at their ends are taken for parts of the lines. -/
private theorem errorLines_eq (output : List Char) :
    errorLines output =
      ((splitLines output).filter fun line => "error:".toList <:+: lower line).map fun line =>
        "  " ++ String.ofList (trim line) := by
  have hcontains : (fun line => contains errorWord (lower line)) =
      fun line => decide ("error:".toList <:+: lower line) := by
    funext line
    rw [Bool.eq_iff_iff, contains_eq_true_iff, decide_eq_true_eq]
    exact Iff.rfl
  have htrim (line : List Char) : "  " ++ String.ofList (trim (line ++ ['\r'])) =
      "  " ++ String.ofList (trim line) := by
    have hreturn : LineReturns line (line ++ ['\r']) := .inr rfl
    rw [hreturn.trim_eq]
  calc errorLines output
    _ = ((splitLines output).filter fun line => contains errorWord (lower line)).map fun line =>
        "  " ++ String.ofList (trim line) :=
      map_filter_readLines contains_errorWord_return htrim rfl output
    _ = _ := by rw [hcontains]

/-- Without diagnostics, every line of an output is noise. -/
private theorem newline_not_mem_text {lines : List (OutputLine shape)}
    (h : lines.filterMap OutputLine.diagnostic? = []) :
    ∀ text ∈ lines.map OutputLine.text, '\n' ∉ text := by
  intro text hmem
  obtain ⟨line, hline, rfl⟩ := List.mem_map.1 hmem
  cases line with
  | diagnostic diagnostic =>
    have hnone := List.filterMap_eq_nil_iff.1 h _ hline
    cases hnone
  | noise text hfeed => exact hfeed

/-- An output is described by its diagnostics, in order, each by the name of its file, its line and
its trimmed message. Without diagnostics, the lines that mention an error in any case are given,
in order, each trimmed and indented by two spaces. -/
theorem errors_of_lines (language : Language) (unitFile : String)
    (lines : List (OutputLine (Convention.of language).reports)) :
    (Convention.of language).errors unitFile (joinLines (lines.map OutputLine.text)) =
      match lines.filterMap OutputLine.diagnostic? with
      | [] =>
        ((lines.map OutputLine.text).filter fun line => "error:".toList <:+: lower line).map
          fun line => "  " ++ String.ofList (trim line)
      | diagnostics => diagnostics.map (Diagnostic.summary unitFile) := by
  have hshape := Convention.hasExtension language
  rw [Convention.errors, reports_joinLines hshape]
  cases hdiagnostics : lines.filterMap OutputLine.diagnostic? with
  | nil =>
    rw [List.map_nil, describeErrors, errorLines_eq]
    -- all lines are noise, and the output is split into these lines again
    by_cases hnil : lines.map OutputLine.text = []
    · rw [hnil]
      simp [joinLines, joinWith, splitLines, splitAt, lower]
    · rw [splitLines, joinLines, splitAt_joinWith hnil (newline_not_mem_text hdiagnostics)]
  | cons diagnostic diagnostics =>
    show ((diagnostic :: diagnostics).map Diagnostic.located).map (Located.describe unitFile) = _
    rw [List.map_map]
    exact List.map_congr_left fun other _ => describe_located hshape unitFile other

/-- A diagnostic in the source of a unit and one in another file, with the lines around them. -/
def sampleLines : List (OutputLine (Convention.of .java).reports) :=
  [.noise "Note: error: is a word".toList (by decide) (by decide),
    .diagnostic
      { stem := "/gen/A".toList
        stem_ne_nil := by decide
        stem_isPathChar := by simp [isBlank]
        line := ⟨"14".toList, by decide, by simp [isDecimal]⟩
        column := none
        isSome_column := rfl
        message := "cannot find symbol\r".toList
        newline_not_mem := by decide
        not_blank := ⟨'c', by decide, by decide⟩ },
    .noise "        ^".toList (by decide) (by decide),
    .diagnostic
      { stem := "Base".toList
        stem_ne_nil := by decide
        stem_isPathChar := by simp [isBlank]
        line := ⟨"3".toList, by decide, by simp [isDecimal]⟩
        column := none
        isSome_column := rfl
        message := "A.java:1: error: here".toList
        newline_not_mem := by decide
        not_blank := ⟨'A', by decide, by decide⟩ },
    .noise [] (by decide) (by decide)]

/-- The diagnostics are told one by one, and no report starts within a message. -/
theorem errors_of_lines_sampleLines :
    (Convention.of .java).errors "A.java" (joinLines (sampleLines.map OutputLine.text)) =
      ["  line 14: cannot find symbol", "  Base.java:3: A.java:1: error: here"] := by
  rw [errors_of_lines]
  decide +kernel

/-- Lines that mention an error are not given bare: they are indented. -/
theorem errors_unlike_lines :
    ¬ ∀ (language : Language) (unitFile : String)
      (lines : List (OutputLine (Convention.of language).reports)),
      (Convention.of language).errors unitFile (joinLines (lines.map OutputLine.text)) =
        match lines.filterMap OutputLine.diagnostic? with
        | [] =>
          ((lines.map OutputLine.text).filter fun line => "error:".toList <:+: lower line).map
            fun line => String.ofList (trim line)
        | diagnostics => diagnostics.map (Diagnostic.summary unitFile) := by
  intro hbare
  have herrors := hbare .java "A.java"
    [.noise "ERROR: no input files".toList (by decide) (by decide),
      .noise [] (by decide) (by decide)]
  -- no report is found, and the line is given with the indentation
  rw [Convention.errors, reports_joinLines (Convention.hasExtension .java)] at herrors
  exact absurd herrors (by decide +kernel)

end SnippetCheck.Compiler
