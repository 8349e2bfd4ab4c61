import SnippetCheck.Proofs.Code
import SnippetCheck.Proofs.Source.Relocation
import SnippetCheck.Wrap.Kotlin

/-!
# The Layout Of A Kotlin Unit

A unit is laid out in zones: imports, objects in front of the class, companion objects in the
class, and the body of its function. `layout` lists the lines of all zones for a snippet whose
body is cut into pieces, and `lines_unit` says that they are the lines of the unit. The body
is cut in one way only, and every line of it is in one piece, so each line of a snippet has one
place in the unit.
-/

namespace SnippetCheck

/-- The settings that a unit is written with have no line feeds. -/
structure Settings.OneLined (settings : Settings) : Prop where
  /-- None in the package. -/
  package : '\n' ∉ settings.package.toList
  /-- None in the name of the base type. -/
  baseClass : '\n' ∉ settings.baseClass.toList
  /-- None in the names to import. -/
  imports : ∀ name ∈ settings.imports, '\n' ∉ name.toList

namespace Kotlin

open SnippetCheck.Text SnippetCheck.Source SnippetCheck.Code

/-- The import lines of a unit with a bare line behind them, if there are any. -/
def importZone (imports : List (List Char)) : List (List Char) :=
  if imports = [] then [] else imports.map (indented 0) ++ [[]]

/-- Lifted blocks at a column, each with a bare line behind it. -/
def liftedZone (columns : Nat) (blocks : List (List (List Char))) : List (List Char) :=
  blocks.flatMap fun block => block.map (indented columns) ++ [[]]

/-- The lines of a unit of a snippet whose body is cut into the given pieces. -/
def layout (settings : Settings) (className : String) (snippet : Snippet) (pieces : List Piece) :
    List (List Char) :=
  [indented 0 s!"package {settings.package}".toList, []] ++
    importZone ((settings.imports.map fun name => s!"import {name}".toList) ++
      imports snippet.content.toList) ++
    liftedZone 0 (blocksOf .file pieces) ++
    [indented 0 s!"// Source: {snippet.id.file}, snippet {snippet.id.index}".toList,
      indented 0 "@Suppress(\"all\")".toList,
      indented 0 s!"class {className} : {settings.baseClass}() \x7b".toList] ++
    liftedZone 4 (blocksOf .type pieces) ++
    [indented 4 "fun validate() \x7b".toList] ++
    (splitLines (stripVisibility visibility (joinLines (loose pieces)))).map (indented 8) ++
    [indented 4 "\x7d".toList, indented 0 "\x7d".toList]

variable {settings : Settings} {className : String} {snippet : Snippet} {pieces : List Piece}

/-- The lines of a body have no line feeds. -/
theorem newline_not_mem_body {content line : List Char}
    (h : line ∈ (bodyLines content).map markEllipsis) : '\n' ∉ line := by
  obtain ⟨source, hsource, rfl⟩ := List.mem_map.1 h
  rw [markEllipsis]
  split
  · decide
  · exact sep_not_mem_of_mem_splitAt (List.mem_filter.1 hsource).1

/-- Lifted blocks are written one behind the other. -/
private theorem foldl_addLifted_eq_append {blocks : List (List (List Char))} (code : Code)
    (h : ∀ block ∈ blocks, block ≠ [] ∧ ∀ line ∈ block, '\n' ∉ line) :
    blocks.foldl addLifted code = code.append (liftedZone code.columns blocks) := by
  induction blocks generalizing code with
  | nil => simp [liftedZone]
  | cons block blocks ih =>
    obtain ⟨⟨hne, hlines⟩, hblocks⟩ := List.forall_mem_cons.1 h
    have hlifted : addLifted code block =
        code.append (block.map (indented code.columns) ++ [[]]) := by
      rw [addLifted, addLines_eq_append, addBlank_eq_append, append_append, splitLines, joinLines,
        splitAt_joinWith hne hlines]
    rw [List.foldl_cons, hlifted, ih _ hblocks, append_append, columns_append]
    rfl

/-- Imports are written with a bare line behind them. -/
theorem addImports_eq_append (imports : List (List Char)) (code : Code)
    (hcode : code.columns = 0) :
    Java.addImports imports code = code.append (importZone imports) := by
  rw [Java.addImports, importZone]
  by_cases h : imports = []
  · simp [h]
  · rw [if_neg (by simpa using h), if_neg h, foldl_addLine_eq_append, addBlank_eq_append,
      append_append, hcode]

/-- The blocks of a body are not empty, and their lines are lines of the body. -/
private theorem lines_of_mem_blocksOf {scope : Scope} {lines block : List (List Char)}
    (hcuts : Cuts classify lines pieces) (hmem : block ∈ blocksOf scope pieces) :
    block ≠ [] ∧ ∀ line ∈ block, line ∈ lines := by
  obtain ⟨rest, hblock⟩ := isBlock_of_mem_blocksOf hcuts hmem
  refine ⟨hblock.ne_nil, fun line hline => ?_⟩
  rw [← flatMap_lines_of_cuts hcuts]
  exact List.mem_flatMap.2 ⟨_, mem_blocksOf.1 hmem, hline⟩

/-- A unit is its layout. -/
private theorem unit_eq_append
    (hcuts : Cuts classify ((bodyLines snippet.content.toList).map markEllipsis) pieces) :
    unit settings className snippet =
      Code.empty.append (layout settings className snippet pieces) := by
  have hrelocated : relocated snippet.content.toList =
      { fileScope := blocksOf .file pieces
        typeScope := blocksOf .type pieces
        remaining := loose pieces } := relocate_of_cuts hcuts
  have hblocks : ∀ scope, ∀ block ∈ blocksOf scope pieces,
      block ≠ [] ∧ ∀ line ∈ block, '\n' ∉ line := by
    intro scope block hmem
    obtain ⟨hne, hlines⟩ := lines_of_mem_blocksOf hcuts hmem
    exact ⟨hne, fun line hline => newline_not_mem_body (hlines line hline)⟩
  -- inside the class: the companion objects, then the function around the lines that stay
  have hclass (code : Code) (hwidth : code.width = 4) (hlevel : code.level = 1) :
      ((blocksOf .type pieces).foldl addLifted code).addBlock "fun validate() \x7b".toList
          "\x7d".toList (fun code => code.addLines (body snippet.content.toList)) =
        code.append (liftedZone 4 (blocksOf .type pieces) ++
          (indented 4 "fun validate() \x7b".toList ::
            ((splitLines (stripVisibility visibility (joinLines (loose pieces)))).map
              (indented 8) ++ [indented 4 "\x7d".toList]))) := by
    have hcolumns : code.columns = 4 := by rw [columns, hwidth, hlevel]
    rw [foldl_addLifted_eq_append code (hblocks .type), addBlock_eq_append (addLines_eq_append _ _),
      append_append, columns_append, columns_indent, body, hrelocated]
    simp only [columns_append, addLine_eq_append, hcolumns]
    simp only [append, hwidth]
  -- around the class: package, imports and the other objects
  have hhead : ∀ code : Code, code.columns = 0 →
      (blocksOf .file pieces).foldl addLifted
          (Java.addImports (importLines settings snippet.content.toList) code) =
        code.append (importZone (importLines settings snippet.content.toList) ++
          liftedZone 0 (blocksOf .file pieces)) := by
    intro code hcode
    rw [addImports_eq_append _ _ hcode, foldl_addLifted_eq_append _ (hblocks .file), append_append,
      columns_append, hcode]
  rw [unit, hrelocated]
  simp only [addLine_eq_append, addBlank_eq_append, append_append]
  rw [hhead _ rfl, addBlock_eq_append (hclass _ rfl rfl)]
  have hempty : Code.empty.columns = 0 := rfl
  simp only [append_append, columns_append, hempty, layout, importLines, List.append_assoc,
    List.cons_append, List.nil_append]

/-- Lines that are lifted have no line feeds where they are written. -/
private theorem newline_not_mem_liftedZone {columns : Nat} {blocks : List (List (List Char))}
    (h : ∀ block ∈ blocks, ∀ line ∈ block, '\n' ∉ line) :
    ∀ line ∈ liftedZone columns blocks, '\n' ∉ line := by
  intro line hmem
  obtain ⟨block, hblock, hline⟩ := List.mem_flatMap.1 hmem
  rcases List.mem_append.1 hline with hline | hline
  · obtain ⟨source, hsource, rfl⟩ := List.mem_map.1 hline
    exact newline_not_mem_indented (h block hblock source hsource)
  · rw [List.mem_singleton.1 hline]
    exact List.not_mem_nil

/-- Import lines have no line feeds where they are written. -/
private theorem newline_not_mem_importZone {imports : List (List Char)}
    (h : ∀ line ∈ imports, '\n' ∉ line) : ∀ line ∈ importZone imports, '\n' ∉ line := by
  intro line hmem
  rw [importZone] at hmem
  split at hmem
  · cases hmem
  · rcases List.mem_append.1 hmem with hline | hline
    · obtain ⟨source, hsource, rfl⟩ := List.mem_map.1 hline
      exact newline_not_mem_indented (h source hsource)
    · rw [List.mem_singleton.1 hline]
      exact List.not_mem_nil

/-- The imports of a snippet have no line feeds. -/
private theorem newline_not_mem_imports {content : List Char} :
    ∀ line ∈ imports content, '\n' ∉ line := by
  intro line hmem
  obtain ⟨source, hsource, rfl⟩ := List.mem_map.1 hmem
  have hline := sep_not_mem_of_mem_splitAt (List.mem_filter.1 hsource).1
  obtain ⟨blanks, htrim, -⟩ := exists_eq_trimEnd_append (trimStart source)
  intro hnewline
  have hstart : '\n' ∈ trimStart source := htrim ▸ List.mem_append_left blanks hnewline
  exact hline (List.dropWhile_suffix _ |>.subset hstart)

/-- A text that is set together from texts without line feeds has none. -/
private theorem newline_not_mem_append {s t : String} (hs : '\n' ∉ s.toList)
    (ht : '\n' ∉ t.toList) : '\n' ∉ (s ++ t).toList := by
  rw [String.toList_append, List.mem_append]
  exact not_or.2 ⟨hs, ht⟩

/-- A numeral has no line feeds. -/
private theorem newline_not_mem_toString (n : Nat) : '\n' ∉ (toString n).toList := by
  intro h
  have hdigit : '\n'.isDigit = true :=
    Nat.isDigit_of_mem_toDigits (b := 10) (by decide) (by decide) (by simpa using h)
  exact absurd hdigit (by decide)

/-- No line of a layout has a line feed. -/
private theorem newline_not_mem_layout (hsettings : settings.OneLined)
    (hname : '\n' ∉ className.toList) (hfile : '\n' ∉ snippet.id.file.toList)
    (hcuts : Cuts classify ((bodyLines snippet.content.toList).map markEllipsis) pieces) :
    ∀ line ∈ layout settings className snippet pieces, '\n' ∉ line := by
  have hpackage := newline_not_mem_append (s := "package ") (by decide) hsettings.package
  have hsource := newline_not_mem_append (newline_not_mem_append (newline_not_mem_append
    (s := "// Source: ") (by decide) hfile) (t := ", snippet ") (by decide))
    (newline_not_mem_toString snippet.id.index)
  have hclass := newline_not_mem_append (newline_not_mem_append (newline_not_mem_append
    (newline_not_mem_append (s := "class ") (by decide) hname) (t := " : ") (by decide))
    hsettings.baseClass) (t := "() \x7b") (by decide)
  have himports : ∀ line ∈ (settings.imports.map fun name => s!"import {name}".toList) ++
      imports snippet.content.toList, '\n' ∉ line := by
    intro line hmem
    rcases List.mem_append.1 hmem with hmem | hmem
    · obtain ⟨name, hname, rfl⟩ := List.mem_map.1 hmem
      exact newline_not_mem_append (s := "import ") (by decide) (hsettings.imports name hname)
    · exact newline_not_mem_imports line hmem
  have hblocks : ∀ scope, ∀ block ∈ blocksOf scope pieces, ∀ line ∈ block, '\n' ∉ line :=
    fun scope block hmem line hline =>
      newline_not_mem_body ((lines_of_mem_blocksOf hcuts hmem).2 line hline)
  -- one case for each part of the layout, in their order
  intro line hmem
  simp only [layout, List.mem_append, List.mem_cons, List.not_mem_nil, or_false] at hmem
  rcases hmem with
    (((((((rfl | rfl) | hmem) | hmem) | rfl | rfl | rfl) | hmem) | rfl) | hmem) | rfl | rfl
  · exact newline_not_mem_indented hpackage
  · exact List.not_mem_nil
  · exact newline_not_mem_importZone himports line hmem
  · exact newline_not_mem_liftedZone (hblocks .file) line hmem
  · exact newline_not_mem_indented hsource
  · exact newline_not_mem_indented (by decide)
  · exact newline_not_mem_indented hclass
  · exact newline_not_mem_liftedZone (hblocks .type) line hmem
  · exact newline_not_mem_indented (by decide)
  · obtain ⟨source, hsource, rfl⟩ := List.mem_map.1 hmem
    exact newline_not_mem_indented (sep_not_mem_of_mem_splitAt hsource)
  · exact newline_not_mem_indented (by decide)
  · exact newline_not_mem_indented (by decide)

/-- The lines of a unit are its layout. The body of the snippet is cut in one way only, and each
of its lines is in one piece. -/
theorem lines_unit (settings : Settings) (className : String) (snippet : Snippet)
    (hsettings : settings.OneLined) (hname : '\n' ∉ className.toList)
    (hfile : '\n' ∉ snippet.id.file.toList) :
    ∃ pieces, Cuts classify ((bodyLines snippet.content.toList).map markEllipsis) pieces ∧
      (∀ others, Cuts classify ((bodyLines snippet.content.toList).map markEllipsis) others →
        others = pieces) ∧
      ((blocksOf .file pieces).flatten ++ (blocksOf .type pieces).flatten ++ loose pieces).Perm
        ((bodyLines snippet.content.toList).map markEllipsis) ∧
      splitLines (unit settings className snippet).toText.toList =
        layout settings className snippet pieces ++ [[]] := by
  obtain ⟨pieces, hcuts⟩ :=
    exists_cuts classify ((bodyLines snippet.content.toList).map markEllipsis)
  refine ⟨pieces, hcuts, fun others hothers => cuts_unique hothers hcuts, perm_of_cuts hcuts, ?_⟩
  rw [toText, String.toList_ofList, unit_eq_append hcuts, splitLines_text]
  · rfl
  · exact newline_not_mem_layout hsettings hname hfile hcuts

/-- A snippet with an object, a companion object and an ellipsis between other lines. -/
def sampleSnippet : Snippet where
  id := { file := "docs/scan.md", index := 2 }
  content :=
    "import sdk.Camera\nval a = 1\nobject Keys \x7b\n  val id = a\n\x7d\ncompanion object\n..."

/-- Its object stands in front of the class, and its companion object in the class. -/
theorem lines_unit_of_sampleSnippet :
    (Settings.default .kotlin).OneLined ∧ '\n' ∉ "Snippet_002".toList ∧
      '\n' ∉ sampleSnippet.id.file.toList ∧
      splitLines (unit (Settings.default .kotlin) "Snippet_002" sampleSnippet).toText.toList =
        ["package com.example.validation", "", "import sdk.Camera", "", "object Keys \x7b",
          "  val id = a", "\x7d", "", "// Source: docs/scan.md, snippet 2", "@Suppress(\"all\")",
          "class Snippet_002 : ValidationBase() \x7b", "    companion object", "",
          "    fun validate() \x7b", "        val a = 1", "        // ...", "    \x7d", "\x7d",
          ""].map String.toList := by
  have hsettings : (Settings.default .kotlin).OneLined :=
    ⟨by decide, by decide, fun name hname => by cases hname⟩
  refine ⟨hsettings, by decide, by decide, ?_⟩
  obtain ⟨pieces, -, hunique, -, hlines⟩ :=
    lines_unit (Settings.default .kotlin) "Snippet_002" sampleSnippet hsettings (by decide)
      (by decide)
  -- the object and the companion object are blocks, and the lines around them stay
  have hobject : IsBlock classify .file
      ["object Keys \x7b".toList, "  val id = a".toList, "\x7d".toList]
      ["companion object".toList, "// ...".toList] :=
    isBlock_iff.2 ⟨_, _, rfl, by decide, by decide⟩
  have hcompanion : IsBlock classify .type ["companion object".toList] ["// ...".toList] :=
    isBlock_iff.2 ⟨_, _, rfl, by decide, by decide⟩
  have hbody : (bodyLines sampleSnippet.content.toList).map markEllipsis =
      "val a = 1".toList :: (["object Keys \x7b".toList, "  val id = a".toList, "\x7d".toList] ++
        ["companion object".toList, "// ...".toList]) := by
    decide +kernel
  have hfirst : classify "val a = 1".toList = none := by decide
  have hlast : classify "// ...".toList = none := by decide
  have hcuts := Cuts.line hfirst (.block hobject (.block hcompanion (.line hlast .nil)))
  rw [← hbody] at hcuts
  rw [hlines, ← hunique _ hcuts]
  decide +kernel

end Kotlin

end SnippetCheck
