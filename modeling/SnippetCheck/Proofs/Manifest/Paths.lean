import SnippetCheck.Manifest.Basic
import SnippetCheck.Proofs.Files.Parent

/-!
# Where State Is Stored

The cache and the baseline of a language have names of their own, with the extension `json`. So
neither of them is the other (`target_cacheFile_ne`), and neither is a source file
(`extensionAt?_cacheFile`), whatever the directories are. The directory of compiled classes has a
name of its own too, without an extension.
-/

namespace SnippetCheck.PathsSection

open Files

variable (given : PathsSection) (root : String) (language : Language) (cwd : Location)

/-- The cache of a language is a single name in its directory. -/
private theorem isName_cacheFile : IsName s!"snippet-{language.tag}-cache.json" := by
  cases language <;> exact ⟨by decide, by decide, by decide, by decide⟩

/-- The baseline of a language is a single name in its directory. -/
private theorem isName_baselineFile : IsName s!"baseline-{language.tag}.json" := by
  cases language <;> exact ⟨by decide, by decide, by decide, by decide⟩

/-- The directory of classes is a single name in its directory. -/
private theorem isName_classesDir : IsName s!"snippet-{language.tag}-classes" := by
  cases language <;> exact ⟨by decide, by decide, by decide, by decide⟩

/-- The path of the cache is a name that is joined to the path of a directory. -/
theorem exists_cacheFile_eq :
    ∃ dir name, IsName name ∧ (given.resolve root language).cacheFile = Path.join dir name :=
  ⟨_, _, isName_cacheFile language, rfl⟩

/-- The path of the baseline is a name that is joined to the path of a directory. -/
theorem exists_baselineFile_eq :
    ∃ dir name, IsName name ∧ (given.resolve root language).baselineFile = Path.join dir name :=
  ⟨_, _, isName_baselineFile language, rfl⟩

/-- The path of the directory of classes calls it by its name. -/
theorem isSome_lastName?_classesDir :
    (lastName? (given.resolve root language).classesDir).isSome = true := by
  rw [resolve, lastName?_join (isName_classesDir language)]
  rfl

/-- The path of the directory of classes is not empty. -/
theorem classesDir_ne_empty : (given.resolve root language).classesDir ≠ "" := by
  intro hempty
  have hname := isSome_lastName?_classesDir given root language
  rw [hempty] at hname
  exact absurd hname (by decide)

/-- The directory of classes is not the root. -/
theorem target_classesDir_ne : target cwd (given.resolve root language).classesDir ≠ [] := by
  rw [resolve, target_join (isName_classesDir language)]
  simp

/-- The directory of classes has no extension. -/
theorem extensionAt?_classesDir :
    extensionAt? (target cwd (given.resolve root language).classesDir) = none := by
  rw [resolve, extensionAt?_target_join (isName_classesDir language)]
  cases language <;> decide

/-- The cache has the extension `json`. -/
theorem extensionAt?_cacheFile :
    extensionAt? (target cwd (given.resolve root language).cacheFile) = some "json" := by
  rw [resolve, extensionAt?_target_join (isName_cacheFile language)]
  cases language <;> decide

/-- The baseline has the extension `json`. -/
theorem extensionAt?_baselineFile :
    extensionAt? (target cwd (given.resolve root language).baselineFile) = some "json" := by
  rw [resolve, extensionAt?_target_join (isName_baselineFile language)]
  cases language <;> decide

/-- The cache of a language is not the baseline of a language, be it the same one or the other. -/
theorem target_cacheFile_ne_baselineFile (other : Language) :
    target cwd (given.resolve root language).cacheFile ≠
      target cwd (given.resolve root other).baselineFile := by
  rw [resolve, resolve, target_join (isName_cacheFile language),
    target_join (isName_baselineFile other)]
  intro heq
  have hname := (List.append_inj' heq rfl).2
  revert hname
  cases language <;> cases other <;> decide

/-- The cache is not the baseline. -/
theorem target_cacheFile_ne :
    target cwd (given.resolve root language).cacheFile ≠
      target cwd (given.resolve root language).baselineFile :=
  target_cacheFile_ne_baselineFile given root language cwd language

end SnippetCheck.PathsSection
