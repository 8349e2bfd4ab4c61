import SnippetCheck.Proofs.Files.Change
import SnippetCheck.Proofs.State.Cache

/-!
# Saved Caches

A cache is built by inserting results, of which the last for a hash counts (`get?_inserted`). What
it holds for each hash determines it, and so the text that it is stored as (`inserted_eq_of_get?`).
A saved cache is loaded for the SDK version that it was saved for, and for no other.

## Main result

* `saved_for_version`: what is loaded from a saved cache, and what its bytes depend on.
-/

namespace SnippetCheck.Cache

open Files

/-- The cache that results were inserted into, one after the other. -/
def inserted (results : List (ContentHash × List String)) : Cache :=
  results.foldl (fun cache result => cache.insert result.1 result.2) empty

variable {results others : List (ContentHash × List String)} {path : String}
  {start final : Workspace} {value : Unit}

/-- Inserting results one after the other gives the cache of all of them. -/
theorem inserted_eq_ofList (results : List (ContentHash × List String)) :
    inserted results = ofList results :=
  List.foldl_hom Cache.mk fun _ _ => rfl

/-- Of the results inserted for a hash, the cache gives the last. -/
theorem get?_inserted (results : List (ContentHash × List String)) (hash : ContentHash) :
    (inserted results).get? hash =
      (results.reverse.find? fun result => result.1 = hash).map Prod.snd := by
  rw [inserted_eq_ofList, get?_ofList]

/-- A cache that results were inserted into is canonical. -/
theorem canonical_inserted (results : List (ContentHash × List String)) :
    (inserted results).Canonical := by
  rw [inserted_eq_ofList]
  exact canonical_ofList results

/-- Insertions that lead to the same results lead to the same cache. -/
theorem inserted_eq_of_get?
    (h : ∀ hash, (inserted others).get? hash = (inserted results).get? hash) :
    inserted others = inserted results :=
  (canonical_inserted others).eq_of_get?_eq (canonical_inserted results) h

/-- A saved cache is loaded for the SDK version that it was saved for; for any other the error
names the version found and the version wanted. The bytes of its file depend on nothing but what
the cache holds for each hash and on the version. What is loaded holds for each hash the result
that was inserted last, also if that is an empty list, and nothing for a hash without a result. -/
theorem saved_for_version (results : List (ContentHash × List String)) (version : SdkVersion)
    (hsave : ((inserted results).save path version).Yields start value final) :
    (∀ wanted : SdkVersion, load final path wanted =
      if version.text = wanted.text then .ok (inserted results)
      else .error (.otherVersion path version.text wanted.text)) ∧
    (∀ others place origin last done,
      ((inserted others).save place version).Yields origin done last →
      (∀ hash, (inserted others).get? hash = (inserted results).get? hash) →
      ∃ bytes, last.files.fileAt? (target origin.cwd place) = some bytes ∧
        final.files.fileAt? (target start.cwd path) = some bytes) ∧
    (∀ others other, ∃ done last, ((inserted others).save path other).Yields start done last) ∧
    (∀ loaded, load final path version = .ok loaded → ∀ hash,
      loaded.get? hash = (inserted results).get? hash ∧
      loaded.get? hash = (results.reverse.find? fun result => result.1 = hash).map Prod.snd) := by
  obtain ⟨-, htext, hbytes⟩ := Action.reads_of_writeText hsave
  have hload := load_eq_of_readText (canonical_inserted results) htext
  refine ⟨hload, ?_, fun others other => Action.exists_writeText_of_yields hsave _, ?_⟩
  · intro others place origin last done hother hget
    -- both files hold the text of the one cache
    obtain ⟨-, -, hotherBytes⟩ := Action.reads_of_writeText hother
    rw [inserted_eq_of_get? hget] at hotherBytes
    exact ⟨_, hotherBytes, hbytes⟩
  · intro loaded hloaded hash
    rw [hload version, if_pos rfl] at hloaded
    cases hloaded
    exact ⟨rfl, get?_inserted results hash⟩

/-- Results of which two are for one hash, and one is a pass. -/
def repeatedResults : List (ContentHash × List String) :=
  [(⟨"b"⟩, ["  line 1: old"]), (⟨"a"⟩, []), (⟨"b"⟩, ["  line 2: \"é\" \\ \t", ""])]

/-- A saved pass is told apart from a result that was never saved, and the later result for a hash
from the earlier one; the cache is of no use for the next version. -/
theorem saved_for_version_repeatedResults :
    ∃ (version next : SdkVersion) (final : Workspace) (loaded : Cache),
      ((inserted repeatedResults).save "cache.json" version).Yields { files := .empty } () final ∧
      load final "cache.json" version = .ok loaded ∧
      load final "cache.json" next = .error (.otherVersion "cache.json" "1.0" "1.1") ∧
      loaded.get? ⟨"a"⟩ = some [] ∧ loaded.get? ⟨"c"⟩ = none ∧
      loaded.get? ⟨"b"⟩ = some ["  line 2: \"é\" \\ \t", ""] := by
  let version : SdkVersion := ⟨"1.0", by decide, by decide⟩
  let next : SdkVersion := ⟨"1.1", by decide, by decide⟩
  let start : Workspace := { files := .empty }
  obtain ⟨_, final, hsave⟩ := Action.exists_yields
    (show (((inserted repeatedResults).save "cache.json" version).exec start).1.isOk = true by
      decide +kernel)
  obtain ⟨hload, -, -, hget⟩ := saved_for_version repeatedResults version hsave
  have hloaded := hload version
  rw [if_pos rfl] at hloaded
  refine ⟨version, next, final, _, hsave, hloaded, ?_, ?_, ?_, ?_⟩
  · rw [hload next, if_neg (by decide)]
  · rw [(hget _ hloaded _).2]
    decide
  · rw [(hget _ hloaded _).2]
    decide
  · rw [(hget _ hloaded _).2]
    decide

end SnippetCheck.Cache
