import SnippetCheck.Proofs.Run.Account
import SnippetCheck.Proofs.Text.Bytes

/-!
# Everything Comes In The Order Of Places

Places are ordered by the bytes of their documents' paths and then by rank. An extraction gives its
snippets in this order, and a run goes through them without changing it: sorting the failures for
the report, or their entries for the baseline, leaves them as they are (`ordered_by_place`).
-/

namespace SnippetCheck

open Phase

/-! ## The order of places -/

namespace SnippetId

/-- One place comes before another by the bytes of their documents' paths, or by its rank in one
document. -/
def BytesBefore (a b : SnippetId) : Prop :=
  a.file.toUTF8.data.toList < b.file.toUTF8.data.toList ∨ a.file = b.file ∧ a.index < b.index

variable {a b : SnippetId}

/-- The order of places is that of the bytes of their paths. -/
theorem before_iff_bytesBefore : a.Before b ↔ a.BytesBefore b :=
  or_congr_left Text.lt_iff_bytes_lt

end SnippetId

/-- Entries are ordered by place. -/
theorem BaselineEntry.compare_eq_lt {a b : BaselineEntry} (h : a.id.Before b.id) :
    compare a b = .lt := by
  obtain ⟨hash, file, index⟩ := a
  obtain ⟨hash', file', index'⟩ := b
  change file < file' ∨ file = file' ∧ index < index' at h
  show ((compareOfLessAndEq file file').then ((compareOfLessAndEq index index').then _)) = _
  rcases h with hfile | ⟨rfl, hindex⟩
  · rw [compareOfLessAndEq, if_pos hfile]
    rfl
  · rw [compareOfLessAndEq, if_neg (String.lt_irrefl _), if_pos rfl, compareOfLessAndEq,
      if_pos hindex]
    rfl

/-! ## Runs -/

/-- The entry that accepts the failure of an outcome. -/
def Outcome.entry (outcome : Outcome) : BaselineEntry :=
  ⟨outcome.hash, outcome.id.file, outcome.id.index⟩

/-- What is captured are the entries of failures, in the order of baselines. -/
theorem Phase.captured_eq_ofList {run : Run}
    (h : List.Forall₂ Outcome.IsFor run.units run.outcomes) :
    captured run = Baseline.ofList (run.failures.map Outcome.entry) := by
  unfold captured Run.failures
  congr 1
  generalize run.units = units, run.outcomes = outcomes at h
  induction h with
  | nil => rfl
  | @cons sourceUnit outcome units outcomes hfor _ ih =>
    have hentry : BaselineEntry.of sourceUnit.snippet = outcome.entry := by
      rw [BaselineEntry.of, Outcome.entry, hfor.id, hfor.hash]
    rw [List.zip_cons_cons, List.filterMap_cons, List.filter_cons]
    cases hpassed : outcome.passed with
    | false => simpa [hpassed, hentry] using ih
    | true => simpa [hpassed] using ih

namespace Passage

variable {machine : Machine} {task : Task} {start final : Workspace} {run : Run}
  (passage : Passage machine task start run final)
include passage

/-- Outcomes come in the order of places. -/
theorem pairwise_outcomes : run.outcomes.Pairwise fun a b => a.id.Before b.id := by
  rw [← List.pairwise_map (f := Outcome.id) (R := SnippetId.Before), passage.map_id_outcomes]
  refine List.Pairwise.sublist (passage.snippets_sublist.map Snippet.id) ?_
  exact List.pairwise_map.2 (Extraction.pairwise_before passage.extraction_eq)

/-- Failures come in the order of places. -/
private theorem pairwise_failures : run.failures.Pairwise fun a b => a.id.Before b.id :=
  passage.pairwise_outcomes.sublist List.filter_sublist

/-- Sorting the failures for the report leaves them as they are. -/
theorem summary_failures_eq :
    (Summary.ofRun run).failures = run.failures.map Outcome.failure := by
  refine List.mergeSort_of_pairwise (List.pairwise_map.2 (passage.pairwise_failures.imp ?_))
  exact fun h => SnippetId.le_iff.2 (.inl h)

/-- Sorting the entries for the baseline leaves them as they are. -/
theorem captured_entries_eq :
    (captured run).entries = run.failures.map Outcome.entry := by
  rw [captured_eq_ofList passage.forall₂_isFor]
  refine Ordered.ofList_eq_self_of_sorted (List.pairwise_map.2 (passage.pairwise_failures.imp ?_))
  exact fun h => BaselineEntry.compare_eq_lt h

end Passage

/-- The snippets that an extraction finds are strictly increasing in the order of places, so that no
two stand at one place; within each document their ranks count from zero; and each has the hash of
its content. A run that extracts them has its outcomes in the same order, and neither the report nor
the baseline lists their failures in another one. -/
theorem ordered_by_place {extraction : Extraction} {workspace : Workspace}
    {snippets : List Snippet} (h : extraction.run workspace = .ok snippets) :
    (snippets.Pairwise fun a b => a.id.BytesBefore b.id) ∧
    (snippets.map Snippet.id).Nodup ∧
    (∀ file, (snippets.filter fun snippet => snippet.id.file = file).map (·.id.index) =
      List.range (snippets.filter fun snippet => snippet.id.file = file).length) ∧
    (∀ snippet ∈ snippets, snippet.hash = ContentHash.of snippet.content) ∧
    ∀ machine task run final, task.extraction = extraction →
      (({} : Pipeline).run machine task).Yields workspace run final →
        (run.outcomes.map Outcome.id).Sublist (snippets.map Snippet.id) ∧
        (run.outcomes.Pairwise fun a b => a.id.BytesBefore b.id) ∧
        (Summary.ofRun run).failures = run.failures.map Outcome.failure ∧
        (captured run).entries = run.failures.map Outcome.entry := by
  have hordered := Extraction.pairwise_before h
  refine ⟨hordered.imp SnippetId.before_iff_bytesBefore.1,
    List.pairwise_map.2 (hordered.imp SnippetId.Before.ne), Extraction.map_index_filter h,
    fun _ _ => rfl, ?_⟩
  rintro machine task run final rfl hrun
  obtain ⟨passage⟩ := Pipeline.nonempty_passage hrun
  obtain rfl : passage.snippets = snippets := Except.ok.inj (passage.extraction_eq.symm.trans h)
  refine ⟨?_, passage.pairwise_outcomes.imp SnippetId.before_iff_bytesBefore.1,
    passage.summary_failures_eq, passage.captured_entries_eq⟩
  rw [passage.map_id_outcomes]
  exact passage.snippets_sublist.map Snippet.id

namespace Capture

/-- A task with two directories of documents, one of them given twice. -/
def severalTask : Task :=
  { normalTask with docs := ["é", "d", "é"] }

/-- A workspace with a snippet in each of them, and a block that is no snippet. -/
def severalSnippets : Workspace where
  files := ⟨[(["B"], .file "".toUTF8), (["d"], .directory), (["é"], .directory),
    (["é", "a.m"], .file "```java\n1\n```\n```java\n...\n```".toUTF8),
    (["d", "z.m"], .file "```java\n2\n```".toUTF8)]⟩

/-- Where the outcomes of a run stand. -/
def places (run : Run) : List SnippetId :=
  run.outcomes.map Outcome.id

end Capture

open Capture

set_option maxRecDepth 100000 in
/-- A run there has two outcomes, and lists their failures in the order of places. -/
theorem ordered_by_place_severalSnippets :
    ∃ run final, (({} : Pipeline).run (.reading objectionToAny) severalTask).Yields severalSnippets run
        final ∧ places run = [⟨"d/z.m", 0⟩, ⟨"é/a.m", 0⟩] ∧
      (run.outcomes.Pairwise fun a b => a.id.BytesBefore b.id) ∧
      (Summary.ofRun run).failures = run.failures.map Outcome.failure ∧
      (captured run).entries = run.failures.map Outcome.entry := by
  obtain ⟨run, hrun, hplaces⟩ := Pipeline.exists_run_yields
    (show ((({} : Pipeline).course (.reading objectionToAny) severalTask).run
      severalSnippets).1.result.toOption.map places = some [⟨"d/z.m", 0⟩, ⟨"é/a.m", 0⟩] by
        decide +kernel)
  obtain ⟨passage⟩ := Pipeline.nonempty_passage hrun
  obtain ⟨-, -, -, -, hruns⟩ := ordered_by_place passage.extraction_eq
  exact ⟨run, _, hrun, hplaces, (hruns _ _ _ _ rfl hrun).2⟩

end SnippetCheck
