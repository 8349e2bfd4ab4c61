import SnippetCheck.Proofs.ClassName
import SnippetCheck.Proofs.Files.Parent
import SnippetCheck.SourceUnit

/-!
# Where Source Units Stand

The units of snippets are well named: their file names are single names that end in the extension
of the language. In any directory they stand directly below it (`WellNamed.target_pathIn`), at
different places for different class names.
-/

namespace SnippetCheck.SourceUnit

open Files Text

/-- The unit has a class name of letters, digits and underscores, and the extension of a
language. -/
structure WellNamed (language : Language) (sourceUnit : SourceUnit) : Prop where
  word : ∀ c ∈ sourceUnit.className.toList, isWordChar c = true
  ne_empty : sourceUnit.className ≠ ""
  extension : sourceUnit.extension = language.extension

variable {language : Language} {sourceUnit other : SourceUnit}

/-- The units of snippets are well named. -/
theorem wellNamed_of_mem_ofSnippets {settings : Settings} {snippets : List Snippet}
    (h : sourceUnit ∈ ofSnippets settings snippets) : WellNamed settings.language sourceUnit := by
  obtain ⟨i, hi, rfl⟩ := List.mem_iff_getElem.1 h
  simp only [ofSnippets, List.getElem_zipWith]
  exact {
    word := fun c hc => ClassName.isWordChar_of_mem_allocate
      (ClassName.isWordChar_of_mem_tag settings.language) (List.getElem_mem _) hc
    ne_empty := ClassName.ne_empty_of_mem_allocate (List.getElem_mem _)
    extension := rfl }

/-- There is one unit for every snippet, in their order. -/
@[simp]
theorem map_snippet_ofSnippets (settings : Settings) (snippets : List Snippet) :
    (ofSnippets settings snippets).map snippet = snippets :=
  List.ext_getElem (by simp [ofSnippets]) (by simp [ofSnippets, new])

namespace WellNamed

/-- The characters of a well-named unit's file name. -/
private theorem toList_fileName (h : WellNamed language sourceUnit) :
    sourceUnit.fileName.toList =
      sourceUnit.className.toList ++ '.' :: language.extension.toList := by
  simp [fileName, h.extension]

/-- The file name ends in the last letter of an extension. -/
private theorem getLast?_fileName (h : WellNamed language sourceUnit) :
    sourceUnit.fileName.toList.getLast? ∈ [some 'a', some 't'] := by
  rw [h.toList_fileName]
  cases language <;> simp [Language.extension]

/-- The file name of a well-named unit is a single name. -/
theorem isName (h : WellNamed language sourceUnit) : IsName sourceUnit.fileName where
  no_slash := by
    rw [h.toList_fileName, List.mem_append]
    rintro (hmem | hmem)
    · exact absurd (h.word _ hmem) (by decide)
    · revert hmem
      cases language <;> decide
  ne_empty heq := by simpa [heq] using h.getLast?_fileName
  ne_here heq := by simpa [heq] using h.getLast?_fileName
  ne_up heq := by simpa [heq] using h.getLast?_fileName

/-- A well-named unit stands directly in its directory. -/
theorem target_pathIn (h : WellNamed language sourceUnit) (cwd : Location) (dir : String) :
    target cwd (sourceUnit.pathIn dir) = target cwd dir ++ [sourceUnit.fileName] :=
  target_join h.isName cwd dir

/-- A well-named unit stands at a place with the extension of the language. -/
theorem extensionAt?_target_pathIn (h : WellNamed language sourceUnit) (cwd : Location)
    (dir : String) :
    extensionAt? (target cwd (sourceUnit.pathIn dir)) = some language.extension := by
  have hstem : sourceUnit.className.toList ≠ [] := by simpa using h.ne_empty
  have hdot : '.' ∉ language.extension.toList := by cases language <;> decide
  rw [pathIn, extensionAt?_target_join h.isName, h.toList_fileName,
    extensionOfName_append hstem hdot]
  simp

/-- A place with another extension is not that of a well-named unit. -/
theorem ne_target_pathIn (h : WellNamed language sourceUnit) {location : Location}
    (hextension : extensionAt? location ≠ some language.extension) (cwd : Location)
    (dir : String) : location ≠ target cwd (sourceUnit.pathIn dir) := fun heq =>
  hextension ((congrArg extensionAt? heq).trans (h.extensionAt?_target_pathIn cwd dir))

/-- What has another extension on the way to a well-named unit is on the way to its directory. -/
theorem mem_stages_of_pathIn (h : WellNamed language sourceUnit) {cwd stage : Location}
    {dir : String} (hstage : stage ∈ stages cwd (sourceUnit.pathIn dir))
    (hextension : extensionAt? stage ≠ some language.extension) : stage ∈ stages cwd dir :=
  ((mem_stages_join h.isName dir).1 hstage).resolve_right (h.ne_target_pathIn hextension cwd dir)

/-- Units with different class names stand at different places. -/
theorem target_pathIn_ne (h : WellNamed language sourceUnit) (hother : WellNamed language other)
    (hne : sourceUnit.className ≠ other.className) (cwd : Location) (dir : String) :
    target cwd (sourceUnit.pathIn dir) ≠ target cwd (other.pathIn dir) := by
  rw [h.target_pathIn, hother.target_pathIn]
  intro heq
  have hname : sourceUnit.fileName = other.fileName := by simpa using heq
  have hchars := congrArg String.toList hname
  rw [h.toList_fileName, hother.toList_fileName] at hchars
  exact hne (String.toList_injective (List.append_cancel_right hchars))

end WellNamed

end SnippetCheck.SourceUnit
