import SnippetCheck.Extraction
import SnippetCheck.Proofs.Ordered

/-!
# The Order Of Extracted Snippets

Snippets come in the order of their documents' paths and, within a document, of their ranks, and
each place comes once: what an extraction finds is strictly increasing
(`Extraction.pairwise_before`). The ranks within a document leave no gaps
(`Extraction.map_index_filter`).
-/

namespace SnippetCheck

open Std

namespace SnippetId

/-- One place comes before another: its document does, or it has the lower rank in the same
document. -/
def Before (a b : SnippetId) : Prop :=
  a.file < b.file ∨ a.file = b.file ∧ a.index < b.index

variable {a b c : SnippetId}

/-- No place comes before itself. -/
theorem Before.ne (h : a.Before b) : a ≠ b := by
  rintro rfl
  rcases h with hfile | ⟨-, hindex⟩
  · exact String.lt_irrefl _ hfile
  · exact Nat.lt_irrefl _ hindex

/-- What comes before a later place comes before it. -/
theorem Before.trans (h : a.Before b) (h' : b.Before c) : a.Before c := by
  rcases h with hfile | ⟨hfile, hindex⟩ <;> rcases h' with hfile' | ⟨hfile', hindex'⟩
  · exact .inl (String.lt_trans hfile hfile')
  · exact .inl (hfile' ▸ hfile)
  · exact .inl (hfile ▸ hfile')
  · exact .inr ⟨hfile.trans hfile', Nat.lt_trans hindex hindex'⟩

/-- Of two places, one comes before the other, or they are the same. -/
theorem before_trichotomy (a b : SnippetId) : a.Before b ∨ a = b ∨ b.Before a := by
  obtain ⟨file, index⟩ := a
  obtain ⟨file', index'⟩ := b
  by_cases hlt : file < file'
  · exact .inl (.inl hlt)
  by_cases hgt : file' < file
  · exact .inr (.inr (.inl hgt))
  obtain rfl : file = file' := String.le_antisymm (String.not_lt.1 hgt) (String.not_lt.1 hlt)
  rcases Nat.lt_trichotomy index index' with hindex | rfl | hindex
  · exact .inl (.inr ⟨rfl, hindex⟩)
  · exact .inr (.inl rfl)
  · exact .inr (.inr (.inr ⟨rfl, hindex⟩))

/-- The order of reports is that of places. -/
theorem le_iff : a.le b = true ↔ a.Before b ∨ a = b := by
  obtain ⟨file, index⟩ := a
  obtain ⟨file', index'⟩ := b
  simp only [le, Before, Bool.or_eq_true, Bool.and_eq_true, decide_eq_true_eq, mk.injEq,
    Nat.le_iff_lt_or_eq]
  tauto

end SnippetId

/-- Writing backslashes as slashes twice is writing them so once. -/
theorem Path.normalize_normalize (path : String) :
    normalize (normalize path) = normalize path := by
  rw [← String.toList_inj]
  simp only [normalize, String.toList_map, List.map_map]
  refine List.map_congr_left fun c _ => ?_
  by_cases h : c = '\\' <;> simp [h]

/-- The snippets of a document are about that document, in the order of their ranks. -/
theorem Document.pairwise_snippets {file : String} (hfile : Path.normalize file = file)
    (tag text : String) :
    (∀ snippet ∈ snippets tag file text, snippet.id.file = file) ∧
      (snippets tag file text).Pairwise fun a b => a.id.Before b.id := by
  unfold snippets
  have hranks : ((contents tag.toList text.toList).zipIdx).Pairwise fun a b => a.2 < b.2 := by
    rw [← List.pairwise_map (f := Prod.snd) (R := (· < ·)), List.zipIdx_map_snd]
    exact List.pairwise_lt_range'
  constructor
  · intro snippet hmem
    obtain ⟨⟨content, index⟩, -, rfl⟩ := List.mem_map.1 hmem
    exact hfile
  · exact List.pairwise_map.2 (hranks.imp fun hlt => .inr ⟨rfl, hlt⟩)

/-- The ranks of the snippets of a document count from zero. -/
theorem Document.map_index_snippets (file tag text : String) :
    (snippets tag file text).map (fun snippet => snippet.id.index) =
      List.range (snippets tag file text).length := by
  unfold snippets
  rw [List.map_map, List.length_map, List.length_zipIdx]
  show ((contents tag.toList text.toList).zipIdx).map Prod.snd = _
  rw [List.zipIdx_map_snd, List.range_eq_range']

namespace Extraction

variable {extraction : Extraction} {workspace : Workspace}

/-- A document is known by a path with forward slashes. -/
private theorem normalize_of_mem_documents {document : String × String}
    (h : document ∈ extraction.documents workspace) :
    Path.normalize document.1 = document.1 := by
  obtain ⟨path, -, rfl⟩ := List.mem_map.1 (Ordered.mem_of_mem_ofList h)
  exact Path.normalize_normalize _

/-- The snippets that are found in a document are about it, in the order of their ranks. -/
private theorem pairwise_snippetsOf {document : String × String} {snippets : List Snippet}
    (hkey : Path.normalize document.1 = document.1)
    (h : extraction.snippetsOf workspace document = .ok snippets) :
    (∀ snippet ∈ snippets, snippet.id.file = document.1) ∧
      snippets.Pairwise fun a b => a.id.Before b.id := by
  unfold snippetsOf at h
  dsimp only at h
  split at h
  · obtain rfl := Except.ok.inj h
    exact Document.pairwise_snippets hkey _ _
  · cases h

/-- The ranks of the snippets that are found in a document count from zero. -/
private theorem map_index_snippetsOf {document : String × String} {snippets : List Snippet}
    (h : extraction.snippetsOf workspace document = .ok snippets) :
    snippets.map (fun snippet => snippet.id.index) = List.range snippets.length := by
  unfold snippetsOf at h
  dsimp only at h
  split at h
  · obtain rfl := Except.ok.inj h
    exact Document.map_index_snippets _ _ _
  · cases h

/-- A sequence succeeds when its parts do. -/
private theorem bind_eq_ok {ε α β : Type} {result : Except ε α} {next : α → Except ε β} {last : β}
    (h : result >>= next = .ok last) : ∃ value, result = .ok value ∧ next value = .ok last := by
  cases result with
  | error error => cases h
  | ok value => exact ⟨value, rfl, h⟩

/-- What is found in several documents is what is found in the first and in the others. -/
private theorem mapM_snippetsOf_cons {document : String × String}
    {documents : List (String × String)} {found : List (List Snippet)}
    (h : (document :: documents).mapM (extraction.snippetsOf workspace) = .ok found) :
    ∃ snippets later, extraction.snippetsOf workspace document = .ok snippets ∧
      documents.mapM (extraction.snippetsOf workspace) = .ok later ∧ found = snippets :: later := by
  rw [List.mapM_cons] at h
  obtain ⟨snippets, hsnippets, h⟩ := bind_eq_ok h
  obtain ⟨later, hlater, h⟩ := bind_eq_ok h
  exact ⟨snippets, later, hsnippets, hlater, (Except.ok.inj h).symm⟩

/-- What is found in documents in the order of their paths is strictly increasing. -/
private theorem pairwise_mapM_snippetsOf {documents : List (String × String)}
    {found : List (List Snippet)} (hsorted : Ordered.Sorted Prod.fst documents)
    (hkeys : ∀ document ∈ documents, Path.normalize document.1 = document.1)
    (h : documents.mapM (extraction.snippetsOf workspace) = .ok found) :
    (∀ snippet ∈ found.flatten, ∃ document ∈ documents, snippet.id.file = document.1) ∧
      found.flatten.Pairwise fun a b => a.id.Before b.id := by
  induction documents generalizing found with
  | nil =>
    obtain rfl : found = [] := (Except.ok.inj h).symm
    simp
  | cons document documents ih =>
    obtain ⟨hfirst, hrest⟩ := List.pairwise_cons.1 hsorted
    obtain ⟨snippets, later, hsnippets, hlater, rfl⟩ := mapM_snippetsOf_cons h
    obtain ⟨hfile, hordered⟩ := pairwise_snippetsOf (hkeys document List.mem_cons_self) hsnippets
    obtain ⟨hfiles, hlater⟩ :=
      ih hrest (fun other hother => hkeys other (List.mem_cons_of_mem _ hother)) hlater
    rw [List.flatten_cons]
    constructor
    · intro snippet hmem
      rcases List.mem_append.1 hmem with hmem | hmem
      · exact ⟨document, List.mem_cons_self, hfile snippet hmem⟩
      · obtain ⟨other, hother, heq⟩ := hfiles snippet hmem
        exact ⟨other, List.mem_cons_of_mem _ hother, heq⟩
    · refine List.pairwise_append.2 ⟨hordered, hlater, fun snippet hmem other hother => .inl ?_⟩
      -- a later document has a greater path
      obtain ⟨second, hsecond, heq⟩ := hfiles other hother
      rw [hfile snippet hmem, heq]
      exact compareOfLessAndEq_eq_lt.1 (hfirst second hsecond)

/-- An extraction that succeeds gives what is found in each document, one after the other. -/
theorem exists_mapM_of_run {snippets : List Snippet}
    (h : extraction.run workspace = .ok snippets) :
    ∃ found, (extraction.documents workspace).mapM (extraction.snippetsOf workspace) = .ok found ∧
      found.flatten = snippets := by
  unfold run at h
  cases hfound : (extraction.documents workspace).mapM (extraction.snippetsOf workspace) with
  | error error =>
    rw [hfound] at h
    cases h
  | ok found =>
    rw [hfound] at h
    exact ⟨found, rfl, Except.ok.inj h⟩

/-- What an extraction finds is strictly increasing. -/
theorem pairwise_before {snippets : List Snippet} (h : extraction.run workspace = .ok snippets) :
    snippets.Pairwise fun a b => a.id.Before b.id := by
  obtain ⟨found, hfound, rfl⟩ := exists_mapM_of_run h
  exact (pairwise_mapM_snippetsOf (Ordered.sorted_ofList _ _)
    (fun _ => normalize_of_mem_documents) hfound).2

/-- Of what is found in documents with distinct paths, one path has the ranks of one document. -/
private theorem map_index_filter_mapM {documents : List (String × String)}
    {found : List (List Snippet)} (hsorted : Ordered.Sorted Prod.fst documents)
    (hkeys : ∀ document ∈ documents, Path.normalize document.1 = document.1)
    (h : documents.mapM (extraction.snippetsOf workspace) = .ok found) (file : String) :
    ((found.flatten.filter fun snippet => snippet.id.file = file).map fun snippet =>
        snippet.id.index) =
      List.range (found.flatten.filter fun snippet => snippet.id.file = file).length := by
  induction documents generalizing found with
  | nil =>
    obtain rfl : found = [] := (Except.ok.inj h).symm
    rfl
  | cons document documents ih =>
    obtain ⟨hfirst, hrest⟩ := List.pairwise_cons.1 hsorted
    obtain ⟨snippets, later, hsnippets, hlater, rfl⟩ := mapM_snippetsOf_cons h
    have hkey := hkeys document List.mem_cons_self
    have hkeys' : ∀ other ∈ documents, Path.normalize other.1 = other.1 :=
      fun other hother => hkeys other (List.mem_cons_of_mem _ hother)
    have hfile := (pairwise_snippetsOf hkey hsnippets).1
    have hfiles := (pairwise_mapM_snippetsOf hrest hkeys' hlater).1
    rw [List.flatten_cons, List.filter_append]
    by_cases heq : document.1 = file
    · -- every snippet of the first document counts, and none of the later ones
      subst heq
      have hall : snippets.filter (fun snippet => snippet.id.file = document.1) = snippets :=
        List.filter_eq_self.2 fun snippet hmem => by simpa using hfile snippet hmem
      have hnone : later.flatten.filter (fun snippet => snippet.id.file = document.1) = [] := by
        refine List.filter_eq_nil_iff.2 fun snippet hmem hsame => ?_
        obtain ⟨other, hother, hplace⟩ := hfiles snippet hmem
        have hlt := compareOfLessAndEq_eq_lt.1 (hfirst other hother)
        rw [← hplace, of_decide_eq_true hsame] at hlt
        exact String.lt_irrefl _ hlt
      rw [hall, hnone, List.append_nil]
      exact map_index_snippetsOf hsnippets
    · have hnone : snippets.filter (fun snippet => snippet.id.file = file) = [] :=
        List.filter_eq_nil_iff.2 fun snippet hmem hsame =>
          heq ((hfile snippet hmem).symm.trans (of_decide_eq_true hsame))
      rw [hnone, List.nil_append]
      exact ih hrest hkeys' hlater

/-- Within each document, the ranks of what an extraction finds count from zero. -/
theorem map_index_filter {snippets : List Snippet} (h : extraction.run workspace = .ok snippets)
    (file : String) :
    ((snippets.filter fun snippet => snippet.id.file = file).map fun snippet =>
        snippet.id.index) =
      List.range (snippets.filter fun snippet => snippet.id.file = file).length := by
  obtain ⟨found, hfound, rfl⟩ := exists_mapM_of_run h
  exact map_index_filter_mapM (Ordered.sorted_ofList _ _) (fun _ => normalize_of_mem_documents)
    hfound file

end Extraction

end SnippetCheck
