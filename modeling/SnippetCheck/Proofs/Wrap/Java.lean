import SnippetCheck.Proofs.Source.LoneModifiers
import SnippetCheck.Proofs.Wrap.Kotlin

/-!
# The Method Of A Java Unit

The method of a unit holds the body of a snippet line by line (`HasMethod`). Each line of the body
keeps its own line in the method unless an access modifier stands alone on a line above a
declaration, which loses lines (`lines_of_method`). No line of the method starts with an access
modifier directly in front of a kind of type (`modifiers_of_method`).
-/

namespace SnippetCheck.Java

open Text Source Document Code

/-- The lines of a unit in front of its method. -/
def preamble (settings : Settings) (className : String) (snippet : Snippet) : List (List Char) :=
  [indented 0 s!"package {settings.package};".toList, []] ++
    Kotlin.importZone (importLines settings snippet.content.toList) ++
    [indented 0 s!"// Source: {snippet.id.file}, snippet {snippet.id.index}".toList,
      indented 0 "@SuppressWarnings(\"all\")".toList,
      indented 0 s!"public class {className} extends {settings.baseClass} \x7b".toList, []]

/-- The header of the method, as it stands in a unit. -/
def header : List Char := "    void validate() throws Exception \x7b".toList

/-- The lines behind the body of the method: the closing brace of the method, that of the class, and
an empty one behind the last line feed. -/
def closing : List (List Char) := ["    \x7d".toList, "\x7d".toList, []]

/-- The lines between the header and the closing brace of the method are the given ones. -/
def HasMethod (settings : Settings) (className : String) (snippet : Snippet)
    (inside : List (List Char)) : Prop :=
  splitLines (unit settings className snippet).toText.toList =
    splitLines (joinLines (preamble settings className snippet)) ++ header :: (inside ++ closing)

variable {settings : Settings} {className : String} {snippet : Snippet}

/-- A unit is its preamble, and its method with the closing braces. -/
private theorem unit_eq_append : unit settings className snippet =
    Code.empty.append (preamble settings className snippet ++
      header :: ((splitLines (body snippet.content.toList)).map (indented 8) ++
        ["    \x7d".toList, "\x7d".toList])) := by
  have hheader : indented 4 "void validate() throws Exception \x7b".toList = header := by decide
  have hbrace : indented 4 "\x7d".toList = "    \x7d".toList := by decide
  have hclose : indented 0 "\x7d".toList = "\x7d".toList := by decide
  -- inside the class: a bare line, then the method around the body
  have hclass (code : Code) (hwidth : code.width = 4) (hlevel : code.level = 1) :
      code.addBlank.addBlock "void validate() throws Exception \x7b".toList "\x7d".toList
          (fun code => code.addLines (body snippet.content.toList)) =
        code.append ([] :: header ::
          ((splitLines (body snippet.content.toList)).map (indented 8) ++
            ["    \x7d".toList])) := by
    have hcolumns : code.columns = 4 := by rw [columns, hwidth, hlevel]
    rw [addBlock_eq_append (addLines_eq_append _ _), addBlank_eq_append, append_append,
      columns_append, columns_indent]
    simp only [columns_append, addLine_eq_append, hcolumns, hheader, hbrace]
    simp only [append, hwidth]
    rfl
  rw [unit]
  simp only [addLine_eq_append, addBlank_eq_append, append_append]
  rw [Kotlin.addImports_eq_append _ _ rfl]
  rw [addBlock_eq_append (hclass _ rfl rfl)]
  have hempty : Code.empty.columns = 0 := rfl
  simp only [append_append, columns_append, hempty, preamble, List.append_assoc,
    List.cons_append, List.nil_append, hclose]

/-- The method of a unit holds the lines of its body, a level deeper. -/
theorem hasMethod (settings : Settings) (className : String) (snippet : Snippet) :
    HasMethod settings className snippet
      ((splitLines (body snippet.content.toList)).map (indented 8)) := by
  -- the preamble is ended by a line feed, and the rest is written line by line
  have htext (lines : List (List Char)) :
      (Code.empty.append (preamble settings className snippet ++ lines)).text =
        joinLines (preamble settings className snippet) ++
          '\n' :: (Code.empty.append lines).text := by
    have hpreamble : endLines (preamble settings className snippet) =
        joinLines (preamble settings className snippet) ++ ['\n'] :=
      endLines_eq (by simp [preamble])
    calc endLines (preamble settings className snippet ++ lines)
        = endLines (preamble settings className snippet) ++ endLines lines := List.flatMap_append
      _ = joinLines (preamble settings className snippet) ++ '\n' :: endLines lines := by
          rw [hpreamble, List.append_assoc, List.singleton_append]
  have hlines : ∀ line ∈ header :: ((splitLines (body snippet.content.toList)).map (indented 8) ++
      ["    \x7d".toList, "\x7d".toList]), '\n' ∉ line := by
    intro line hmem
    simp only [List.mem_cons, List.mem_append, List.mem_map, List.not_mem_nil, or_false] at hmem
    rcases hmem with rfl | ⟨source, hsource, rfl⟩ | rfl | rfl
    · decide
    · exact newline_not_mem_indented (sep_not_mem_of_mem_splitAt hsource)
    · decide
    · decide
  rw [HasMethod, toText, String.toList_ofList, unit_eq_append, htext, splitLines,
    splitAt_append_cons, ← splitLines, ← splitLines, splitLines_text hlines]
  simp [closing, Code.empty]

/-- The lines of a method, computed from the body alone. -/
theorem hasMethod_of_body {inside : List (List Char)}
    (h : (splitLines (body snippet.content.toList)).map (indented 8) = inside) :
    HasMethod settings className snippet inside :=
  h ▸ hasMethod settings className snippet

/-- The lines of a method are determined by the unit. -/
theorem HasMethod.unique {inside other : List (List Char)}
    (h : HasMethod settings className snippet inside)
    (hother : HasMethod settings className snippet other) : inside = other := by
  have heq := List.append_cancel_left (h.symm.trans hother)
  exact List.append_cancel_right (List.cons.inj heq).2

/-- Access modifiers and kinds of types are words that can be told apart. -/
theorem isDirect_visibility : visibility.IsDirect :=
  ⟨rfl, by decide, by decide⟩

/-- The body lines of a snippet as they are before modifiers are removed. -/
def markedLines (snippet : Snippet) : List (List Char) :=
  (bodyLines snippet.content.toList).map markEllipsis

/-- No body line has a line feed. -/
private theorem newline_not_mem_markedLines : ∀ line ∈ markedLines snippet, '\n' ∉ line :=
  fun _ hmem => Kotlin.newline_not_mem_body hmem

/-- Every body line of a snippet has a line of its own in the method just where no access modifier
stands alone on a line above a declaration. Then each line of the method is made of its body line
alone: an ellipsis is marked, the access modifier in front of a declaration is removed, and the rest
is indented. -/
theorem lines_of_method (settings : Settings) (className : String) (snippet : Snippet)
    (hbody : bodyLines snippet.content.toList ≠ []) :
    ∃ inside, HasMethod settings className snippet inside ∧
      (inside.length = (bodyLines snippet.content.toList).length ↔
        ¬ Above visibility (Declares visibility) (markedLines snippet)) ∧
      (¬ Above visibility (Declares visibility) (markedLines snippet) →
        inside = (bodyLines snippet.content.toList).map fun line =>
          indented 8 (stripLine visibility (markEllipsis line))) := by
  have hsplit : splitLines (body snippet.content.toList) =
      stripLines visibility (markedLines snippet) :=
    splitLines_stripVisibility isDirect_visibility newline_not_mem_markedLines
      (by simpa [markedLines] using hbody)
  have hlength := (length_stripLines isDirect_visibility (markedLines snippet)).2
  refine ⟨_, hasMethod settings className snippet, ?_, fun habove => ?_⟩
  · rw [hsplit, List.length_map, ← hlength, markedLines, List.length_map]
  · rw [hsplit, stripLines_eq_map isDirect_visibility habove, markedLines, List.map_map,
      List.map_map]
    rfl

/-- A snippet with modifiers in front of declarations, an ellipsis, and a modifier above a line that
declares no type. -/
def listenerSnippet : Snippet where
  id := { file := "docs/scan.md", index := 2 }
  content :=
    "import sdk.Camera;\npublic class A implements B \x7b\n  private  enum C \x7b\x7d\n...\npublic\n\nint a = 1;\n\x7d"

/-- Each of its lines keeps its place. -/
theorem lines_of_method_listenerSnippet :
    bodyLines listenerSnippet.content.toList ≠ [] ∧
      HasMethod (Settings.default .java) "Snippet_002" listenerSnippet
        (["        class A implements B \x7b", "          enum C \x7b\x7d", "        // ...",
          "        public", "", "        int a = 1;", "        \x7d"].map String.toList) ∧
      ¬ Above visibility (Declares visibility) (markedLines listenerSnippet) ∧
      ["        class A implements B \x7b", "          enum C \x7b\x7d", "        // ...",
          "        public", "", "        int a = 1;", "        \x7d"].map String.toList =
        (bodyLines listenerSnippet.content.toList).map fun line =>
          indented 8 (stripLine visibility (markEllipsis line)) := by
  have hbody : bodyLines listenerSnippet.content.toList ≠ [] := by decide
  obtain ⟨inside, hinside, hlength, hlines⟩ :=
    lines_of_method (Settings.default .java) "Snippet_002" listenerSnippet hbody
  have hactual : HasMethod (Settings.default .java) "Snippet_002" listenerSnippet
      (["        class A implements B \x7b", "          enum C \x7b\x7d", "        // ...",
        "        public", "", "        int a = 1;", "        \x7d"].map String.toList) :=
    hasMethod_of_body (by decide +kernel)
  obtain rfl := hinside.unique hactual
  have habove := hlength.1 (by decide +kernel)
  exact ⟨hbody, hactual, habove, hlines habove⟩

/-- A snippet with a modifier on the line above its class. -/
def dividedSnippet : Snippet where
  id := { file := "docs/scan.md", index := 2 }
  content := "int a = 1;\npublic\nclass A \x7b\x7d\nint b = 2;"

/-- The modifier takes its line end with it, so that not every body line has a line of its own. -/
theorem line_lost_dividedSnippet :
    ¬ ∀ (settings : Settings) (className : String) (snippet : Snippet),
      bodyLines snippet.content.toList ≠ [] →
        HasMethod settings className snippet ((bodyLines snippet.content.toList).map fun line =>
          indented 8 (stripLine visibility (markEllipsis line))) := by
  intro h
  have hactual : HasMethod (Settings.default .java) "Snippet_002" dividedSnippet
      (["        int a = 1;", "        class A \x7b\x7d", "        int b = 2;"].map
        String.toList) :=
    hasMethod_of_body (by decide +kernel)
  have heq := (h (Settings.default .java) "Snippet_002" dividedSnippet (by decide)).unique hactual
  have hlength := congrArg List.length heq
  rw [List.length_map] at hlength
  exact absurd hlength (by decide +kernel)

/-- A line that starts modified where it is indented does so where it is not. -/
private theorem startsModified_of_indented {rule : VisibilityRule} {columns : Nat}
    {line : List Char} (h : StartsModified rule (trimStart (indented columns line))) :
    StartsModified rule (trimStart line) := by
  obtain ⟨blanks, hline, hblanks⟩ := exists_eq_trimEnd_append line
  have htrim : trimStart (indented columns line) = trimStart (trimEnd line) := by
    rw [indented]
    split
    next hempty => rw [List.isEmpty_iff.1 hempty]
    next =>
      rw [trimStart, List.dropWhile_append_of_pos, ← trimStart]
      intro c hc
      rw [List.eq_of_mem_replicate hc]
      decide
  rw [htrim] at h
  have hstart : trimStart line = trimStart (trimEnd line) ++ blanks := by
    conv_lhs => rw [hline]
    rw [trimStart, List.dropWhile_append, ← trimStart, if_neg (by simpa using h.ne_nil)]
  rw [hstart]
  exact h.append_blanks hblanks

/-- No line of the method starts with an access modifier directly in front of a kind of type, and
removing modifiers once more changes nothing just where no access modifier stood alone on a line
above a declaration with a modifier of its own. -/
theorem modifiers_of_method (settings : Settings) (className : String) (snippet : Snippet) :
    ∃ inside, HasMethod settings className snippet inside ∧
      (∀ line ∈ inside, ¬ StartsModified visibility (trimStart line)) ∧
      (stripVisibility visibility (body snippet.content.toList) = body snippet.content.toList ↔
        ¬ Above visibility (StartsModified visibility) (markedLines snippet)) := by
  refine ⟨_, hasMethod settings className snippet, fun line hmem hmodified => ?_,
    stripVisibility_stripVisibility_iff isDirect_visibility newline_not_mem_markedLines⟩
  obtain ⟨source, hsource, rfl⟩ := List.mem_map.1 hmem
  have hstart := startsModified_of_indented hmodified
  by_cases hbody : markedLines snippet = []
  · -- without body lines, the method holds a bare line
    have hbare : splitLines (body snippet.content.toList) = [[]] := by
      rw [body, ← markedLines, hbody, stripVisibility, joinLines, joinWith, stripFrom]
      rfl
    rw [hbare, List.mem_singleton] at hsource
    exact hstart.ne_nil (by rw [hsource]; rfl)
  · rw [body, ← markedLines, splitLines_stripVisibility isDirect_visibility
      newline_not_mem_markedLines hbody] at hsource
    exact not_startsModified_of_mem_stripLines isDirect_visibility source hsource hstart

/-- Access modifiers in front of other modifiers of a type. -/
def qualifiedVisibility : VisibilityRule :=
  { visibility with
    qualifiers := ["abstract".toList, "final".toList, "static".toList, "strictfp".toList] }

/-- A snippet whose class has a second modifier. -/
def finalSnippet : Snippet where
  id := { file := "docs/scan.md", index := 2 }
  content := "public final class A \x7b\x7d"

/-- A snippet whose class has a modifier above its own. -/
def stackedSnippet : Snippet where
  id := { file := "docs/scan.md", index := 2 }
  content := "public\nprivate class A \x7b\x7d"

/-- An access modifier is left in front of another modifier of the type, and one that is left above
a declaration with a modifier of its own is removed only by a second pass. -/
theorem modifiers_left :
    (¬ ∀ (settings : Settings) (className : String) (snippet : Snippet),
      ∃ inside, HasMethod settings className snippet inside ∧
        ∀ line ∈ inside, ¬ StartsModified qualifiedVisibility (trimStart line)) ∧
    ¬ ∀ snippet : Snippet, stripVisibility visibility (body snippet.content.toList) =
      body snippet.content.toList := by
  constructor
  · intro h
    obtain ⟨inside, hinside, hlines⟩ := h (Settings.default .java) "Snippet_002" finalSnippet
    have hactual : HasMethod (Settings.default .java) "Snippet_002" finalSnippet
        ["        public final class A \x7b\x7d".toList] :=
      hasMethod_of_body (by decide +kernel)
    obtain rfl := hinside.unique hactual
    have hspace : ∀ c ∈ " ".toList, isBlank c = true := List.all_eq_true.1 (by decide)
    have hclass : Declares qualifiedVisibility ("class".toList ++ " A \x7b\x7d".toList) :=
      .kind (by decide) (by decide)
    have hfinal : Declares qualifiedVisibility
        ("final".toList ++ (" ".toList ++ ("class".toList ++ " A \x7b\x7d".toList))) :=
      .qualified (by decide) (by decide) hspace hclass
    have hpublic : StartsModified qualifiedVisibility ("public".toList ++ (" ".toList ++
        ("final".toList ++ (" ".toList ++ ("class".toList ++ " A \x7b\x7d".toList))))) :=
      .modifier (by decide) (by decide) hspace hfinal
    exact hlines _ List.mem_cons_self hpublic
  · intro h
    exact absurd (h stackedSnippet) (by decide +kernel)

end SnippetCheck.Java
