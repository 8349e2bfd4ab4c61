import SnippetCheck.Proofs.Extraction
import SnippetCheck.Proofs.Run.Capture

/-!
# Every Snippet Is Accounted For

A normal run that succeeds leaves out the snippets that the baseline accepts, and has one unit,
one outcome and one entry of a count for every other (`accounts_of_normal_run`). What is reported
does not depend on the order in which outcomes come (`Summary.ofRun_perm`), because no two
failures stand at the same place.
-/

namespace SnippetCheck

open Action Phase

/-! ## Summaries -/

/-- The failure that an outcome is reported as. -/
def Outcome.failure (outcome : Outcome) : Failure :=
  ⟨outcome.id, outcome.className, outcome.errors⟩

namespace Summary

variable {run : Run}

/-- The order of reports is transitive and total. -/
private theorem pairwise_le_mergeSort (failures : List Failure) :
    (failures.mergeSort fun a b => a.id.le b.id).Pairwise fun a b => a.id.le b.id = true := by
  refine List.pairwise_mergeSort (fun a b c hab hbc => ?_) (fun a b => ?_) failures
  · rw [SnippetId.le_iff] at hab hbc ⊢
    rcases hab with hab | hab
    · rcases hbc with hbc | hbc
      · exact .inl (hab.trans hbc)
      · exact .inl (hbc ▸ hab)
    · rwa [hab]
  · rw [Bool.or_eq_true, SnippetId.le_iff, SnippetId.le_iff]
    rcases SnippetId.before_trichotomy a.id b.id with h | h | h
    · exact .inl (.inl h)
    · exact .inl (.inr h)
    · exact .inr (.inl h)

/-- The failures of a summary are those of the run, in some order. -/
theorem failures_perm (run : Run) :
    (ofRun run).failures.Perm
      ((run.outcomes.filter fun outcome => outcome.errors ≠ []).map Outcome.failure) := by
  have hfailures : run.failures = run.outcomes.filter fun outcome => outcome.errors ≠ [] := by
    refine List.filter_congr fun outcome _ => ?_
    cases h : outcome.errors <;> simp [Outcome.passed, h]
  rw [← hfailures]
  exact List.mergeSort_perm _ _

/-- When outcomes stand at different places, the failures of a summary are strictly increasing. -/
theorem pairwise_failures (hplaces : (run.outcomes.map Outcome.id).Nodup) :
    (ofRun run).failures.Pairwise fun a b => a.id.Before b.id := by
  have hdistinct : ((ofRun run).failures.map Failure.id).Nodup := by
    rw [((failures_perm run).map Failure.id).nodup_iff, List.map_map]
    exact hplaces.sublist (List.filter_sublist.map Outcome.id)
  refine List.Pairwise.imp₂ (fun a b hle hne => ?_) (pairwise_le_mergeSort _)
    (List.pairwise_map.1 hdistinct)
  exact (SnippetId.le_iff.1 hle).resolve_right hne

/-- When outcomes stand at different places, a summary does not depend on their order. -/
theorem ofRun_perm (hplaces : (run.outcomes.map Outcome.id).Nodup) {outcomes : List Outcome}
    (hperm : outcomes.Perm run.outcomes) :
    ofRun { run with outcomes } = ofRun run := by
  have hsame : (ofRun { run with outcomes }).failures = (ofRun run).failures := by
    have : Std.Irrefl fun a b : Failure => a.id.Before b.id := ⟨fun _ h => h.ne rfl⟩
    have : Std.Antisymm fun a b : Failure => a.id.Before b.id :=
      ⟨fun _ _ hab hba => absurd rfl (hab.trans hba).ne⟩
    refine List.Pairwise.eq_of_mem_iff (pairwise_failures ?_) (pairwise_failures hplaces)
      fun failure => ?_
    · exact (hperm.map Outcome.id).nodup_iff.2 hplaces
    · rw [(failures_perm _).mem_iff, (failures_perm _).mem_iff]
      exact ((hperm.filter _).map _).mem_iff
  have hfields : ofRun { run with outcomes } =
      { ofRun run with
        total := outcomes.length
        cached := outcomes.countP Outcome.cached
        failures := (ofRun { run with outcomes }).failures } := rfl
  rw [hfields, hsame, hperm.length_eq, hperm.countP_eq]
  rfl

/-- The exit code is zero just when no outcome has errors. -/
theorem exitCode_eq_zero_iff :
    (ofRun run).exitCode = 0 ↔ ∀ outcome ∈ run.outcomes, outcome.errors = [] := by
  have hempty : (ofRun run).isSuccess = true ↔
      (run.outcomes.filter fun outcome => outcome.errors ≠ []) = [] := by
    rw [isSuccess, List.isEmpty_iff, ← List.length_eq_zero_iff, (failures_perm run).length_eq,
      List.length_map, List.length_eq_zero_iff]
  have hcode : (ofRun run).exitCode = 0 ↔ (ofRun run).isSuccess = true := by
    unfold exitCode
    split <;> simp_all
  rw [hcode, hempty, List.filter_eq_nil_iff]
  simp

end Summary

/-! ## Units and outcomes -/

/-- How a run accounts for the snippets that were found: those that the baseline accepts are counted
and nothing else becomes of them; every other has a unit and an outcome, in their order, and the
outcome is not cached just when the unit was compiled. -/
structure Run.AccountsFor (run : Run) (snippets : List Snippet) (baseline : Baseline)
    (compiled : List SourceUnit) : Prop where
  left : run.snippets = snippets.filter fun snippet => BaselineEntry.of snippet ∉ baseline.entries
  skipped : run.skipped =
    snippets.countP fun snippet => BaselineEntry.of snippet ∈ baseline.entries
  units : run.units.map SourceUnit.snippet = run.snippets
  outcomes : List.Forall₂ (fun sourceUnit outcome => Outcome.IsFor sourceUnit outcome ∧
    (outcome.cached = false ↔ sourceUnit ∈ compiled)) run.units run.outcomes
  compiled : compiled.Sublist run.units
  silent : ∀ snippet ∈ snippets, BaselineEntry.of snippet ∈ baseline.entries →
    (∀ sourceUnit ∈ run.units, sourceUnit.snippet.id ≠ snippet.id) ∧
    (∀ outcome ∈ run.outcomes, outcome.id ≠ snippet.id) ∧
    ∀ failure ∈ (Summary.ofRun run).failures, failure.id ≠ snippet.id

/-- How a summary adds up: each snippet that was found was skipped or has an outcome, which is a
pass or a failure and was cached or compiled; every outcome with errors is listed, once and in the
order of places; and the exit code tells whether a snippet that the baseline does not accept has
errors. -/
structure Summary.Balances (run : Run) (snippets : List Snippet) (baseline : Baseline)
    (compiled : List SourceUnit) : Prop where
  found : snippets.length = (ofRun run).total + (ofRun run).skipped
  judged : (ofRun run).total = (ofRun run).passed + (ofRun run).failed
  known : (ofRun run).cached + compiled.length = (ofRun run).total
  listed : (ofRun run).failures.Perm
    ((run.outcomes.filter fun outcome => outcome.errors ≠ []).map Outcome.failure)
  ordered : (ofRun run).failures.Pairwise fun a b => a.id.Before b.id
  unordered : ∀ outcomes : List Outcome, outcomes.Perm run.outcomes →
    ofRun { run with outcomes } = ofRun run
  exit : (ofRun run).exitCode = 0 ↔ ∀ snippet ∈ snippets,
    BaselineEntry.of snippet ∉ baseline.entries →
      ∃ outcome ∈ run.outcomes, outcome.id = snippet.id ∧ outcome.errors = []

namespace Phase

/-- A settled unit is cached just when the cache knows its hash. -/
theorem cached_settle (cache : Cache) (found : SourceUnit → List String)
    (sourceUnit : SourceUnit) :
    (settle cache found sourceUnit).cached = (cache.get? sourceUnit.snippet.hash).isSome := by
  unfold settle
  split
  next hcache => rw [hcache]; rfl
  next hcache => rw [hcache]; rfl

/-- A unit is pending just when it is one of the units and is not cached once it is settled. -/
theorem mem_pending_iff {cache : Cache} {units : List SourceUnit} {sourceUnit : SourceUnit}
    (found : SourceUnit → List String) (hmem : sourceUnit ∈ units) :
    sourceUnit ∈ pending cache units ↔ (settle cache found sourceUnit).cached = false := by
  rw [cached_settle, pending, List.mem_filter]
  simp [hmem]

/-- Of settled units, as many are not cached as there are pending ones. -/
theorem countP_cached_add_length_pending (cache : Cache) (found : SourceUnit → List String)
    (units : List SourceUnit) :
    (units.map (settle cache found)).countP Outcome.cached + (pending cache units).length =
      units.length := by
  have hcached : (units.map (settle cache found)).countP Outcome.cached =
      units.countP fun sourceUnit => (cache.get? sourceUnit.snippet.hash).isSome := by
    rw [List.countP_map]
    exact List.countP_congr fun sourceUnit _ => by rw [Function.comp, cached_settle]
  have hpending : (pending cache units).length =
      units.countP fun sourceUnit => ¬ (cache.get? sourceUnit.snippet.hash).isSome := by
    rw [pending, ← List.countP_eq_length_filter]
    exact List.countP_congr fun sourceUnit _ => by simp
  rw [hcached, hpending]
  exact (List.length_eq_countP_add_countP _).symm

end Phase

variable {machine : Machine} {task : Task} {start final : Workspace} {run : Run}

namespace Passage

variable (passage : Passage machine task start run final)
include passage

/-- When class names are distinct, every unit is settled by the cache or by its own process. -/
theorem exists_outcomes_eq (hnames : (run.units.map SourceUnit.className).Nodup) :
    ∃ found, run.outcomes =
      run.units.map (settle (loadedCache task passage.generated) found) := by
  -- class names tell the pending units apart
  have hnodup : (pending (loadedCache task passage.generated) run.units).Nodup :=
    (List.Nodup.of_map _ hnames).sublist (pending_sublist _ _)
  obtain ⟨process, _, _, -, -, hfresh, -⟩ :=
    Compiler.Session.compile_yields hnodup passage.compiles
  refine ⟨fun sourceUnit => task.session.resultFor sourceUnit (process sourceUnit), ?_⟩
  rw [passage.outcomes_eq, hfresh, outcomes_map_pending _ _ hnames]

/-- No two of the snippets that were found stand at the same place. -/
theorem nodup_ids : (passage.snippets.map Snippet.id).Nodup :=
  List.pairwise_map.2 <|
    (Extraction.pairwise_before passage.extraction_eq).imp SnippetId.Before.ne

/-- The snippets that are considered are some of those that were found, in their order. -/
theorem snippets_sublist : run.snippets.Sublist passage.snippets := by
  rw [passage.snippets_eq]
  exact List.filter_sublist

/-- Outcomes stand where the snippets do that are considered. -/
theorem map_id_outcomes : run.outcomes.map Outcome.id = run.snippets.map Snippet.id := by
  rw [← passage.map_snippet_units, List.map_map, ← List.forall₂_eq_eq_eq,
    List.forall₂_map_left_iff, List.forall₂_map_right_iff]
  exact passage.forall₂_isFor.flip.imp fun _ _ h => h.id

/-- No two outcomes stand at the same place. -/
theorem nodup_id_outcomes : (run.outcomes.map Outcome.id).Nodup := by
  rw [passage.map_id_outcomes]
  exact passage.nodup_ids.sublist (passage.snippets_sublist.map Snippet.id)

/-- A snippet that was found and not considered stands where none is that is considered. -/
theorem id_not_mem {snippet : Snippet} (hfound : snippet ∈ passage.snippets)
    (hleft : snippet ∉ run.snippets) : snippet.id ∉ run.snippets.map Snippet.id := by
  intro hmem
  obtain ⟨other, hother, hid⟩ := List.mem_map.1 hmem
  obtain rfl : other = snippet :=
    List.inj_on_of_nodup_map passage.nodup_ids (passage.snippets_sublist.subset hother) hfound hid
  exact hleft hother

/-- Where a snippet is that is not considered, there is no unit, no outcome and no failure. -/
theorem silent {snippet : Snippet} (hid : snippet.id ∉ run.snippets.map Snippet.id) :
    (∀ sourceUnit ∈ run.units, sourceUnit.snippet.id ≠ snippet.id) ∧
    (∀ outcome ∈ run.outcomes, outcome.id ≠ snippet.id) ∧
    ∀ failure ∈ (Summary.ofRun run).failures, failure.id ≠ snippet.id := by
  have houtcomes : ∀ outcome ∈ run.outcomes, outcome.id ≠ snippet.id := by
    intro outcome hmem heq
    rw [← passage.map_id_outcomes, ← heq] at hid
    exact hid (List.mem_map_of_mem hmem)
  refine ⟨fun sourceUnit hmem heq => hid ?_, houtcomes, fun failure hmem => ?_⟩
  · rw [← passage.map_snippet_units, List.map_map, ← heq]
    exact List.mem_map_of_mem (f := Snippet.id ∘ SourceUnit.snippet) hmem
  · obtain ⟨outcome, houtcome, rfl⟩ := List.mem_map.1 ((Summary.failures_perm run).mem_iff.1 hmem)
    exact houtcomes outcome (List.mem_filter.1 houtcome).1

/-- The exit code is zero just when every snippet that is considered has an outcome without
errors. -/
theorem exitCode_eq_zero_iff : (Summary.ofRun run).exitCode = 0 ↔ ∀ snippet ∈ run.snippets,
    ∃ outcome ∈ run.outcomes, outcome.id = snippet.id ∧ outcome.errors = [] := by
  rw [Summary.exitCode_eq_zero_iff]
  constructor
  · intro hall snippet hmem
    have hid := List.mem_map_of_mem (f := Snippet.id) hmem
    rw [← passage.map_id_outcomes] at hid
    obtain ⟨outcome, houtcome, heq⟩ := List.mem_map.1 hid
    exact ⟨outcome, houtcome, heq, hall outcome houtcome⟩
  · intro hall outcome hmem
    have hid := List.mem_map_of_mem (f := Outcome.id) hmem
    rw [passage.map_id_outcomes] at hid
    obtain ⟨snippet, hsnippet, heq⟩ := List.mem_map.1 hid
    obtain ⟨other, hother, hplace, herrors⟩ := hall snippet hsnippet
    -- no two outcomes stand at the place of the snippet
    obtain rfl : other = outcome :=
      List.inj_on_of_nodup_map passage.nodup_id_outcomes hother hmem (hplace.trans heq)
    exact herrors

/-- In a normal run, a snippet is considered just when the stored baseline has no entry for it. -/
theorem snippets_eq_of_normal (hmode : task.mode = .normal) :
    run.snippets = passage.snippets.filter fun snippet => BaselineEntry.of snippet ∉
      ((Baseline.load start task.paths.baselineFile).toOption.getD .empty).entries := by
  rw [passage.snippets_eq, considered, loadedBaseline, if_neg (by simp [hmode])]
  exact List.filter_congr fun snippet _ => by simp [Baseline.accepts]

variable {baseline : Baseline}
  (hleft : run.snippets =
    passage.snippets.filter fun snippet => BaselineEntry.of snippet ∉ baseline.entries)
include hleft

/-- A run that considers the snippets for which a baseline has no entry has skipped the others. -/
theorem skipped_eq_countP_mem : run.skipped =
    passage.snippets.countP fun snippet => BaselineEntry.of snippet ∈ baseline.entries := by
  rw [passage.skipped_eq, hleft, ← List.countP_eq_length_filter, List.length_eq_countP_add_countP
    fun snippet => decide (BaselineEntry.of snippet ∈ baseline.entries)]
  simp

variable (hnames : (run.units.map SourceUnit.className).Nodup)
include hnames

/-- A run with distinct class names accounts for the snippets that were found, if it considers those
for which a baseline has no entry. -/
theorem accounts : run.AccountsFor passage.snippets baseline
    (pending (loadedCache task passage.generated) run.units) where
  left := hleft
  skipped := passage.skipped_eq_countP_mem hleft
  units := passage.map_snippet_units
  outcomes := by
    obtain ⟨found, houtcomes⟩ := passage.exists_outcomes_eq hnames
    have hfor := passage.forall₂_isFor
    rw [houtcomes, List.forall₂_map_right_iff, List.forall₂_same] at hfor ⊢
    exact fun sourceUnit hmem => ⟨hfor sourceUnit hmem, (mem_pending_iff found hmem).symm⟩
  compiled := pending_sublist _ _
  silent snippet hfound haccepted := by
    refine passage.silent (passage.id_not_mem hfound ?_)
    rw [hleft]
    simp [haccepted]

/-- The summary of a run with distinct class names balances, if it considers the snippets for
which a baseline has no entry. -/
theorem balances : Summary.Balances run passage.snippets baseline
    (pending (loadedCache task passage.generated) run.units) where
  found := by
    have hlength := passage.snippets_sublist.length_le
    show _ = run.outcomes.length + run.skipped
    rw [passage.length_outcomes, passage.skipped_eq]
    omega
  judged := (Summary.passed_add_failed_ofRun run).symm
  known := by
    obtain ⟨found, houtcomes⟩ := passage.exists_outcomes_eq hnames
    show run.outcomes.countP Outcome.cached + _ = run.outcomes.length
    rw [houtcomes, countP_cached_add_length_pending, List.length_map]
  listed := Summary.failures_perm run
  ordered := Summary.pairwise_failures passage.nodup_id_outcomes
  unordered _ := Summary.ofRun_perm passage.nodup_id_outcomes
  exit := by
    rw [passage.exitCode_eq_zero_iff, hleft]
    simp

end Passage

/-- A normal run that succeeds with distinct class names accounts for all snippets that were found,
its summary balances, the units that it has written are its own, and it has launched the commands of
its session for those of them whose outcome is not cached. -/
theorem accounts_of_normal_run (hmode : task.mode = .normal)
    (h : (({} : Pipeline).run machine task).Yields start run final)
    (hnames : (run.units.map SourceUnit.className).Nodup) :
    let baseline := (Baseline.load start task.paths.baselineFile).toOption.getD .empty
    ∃ snippets compiled classpath generated,
      task.extraction.run start = .ok snippets ∧
      run.AccountsFor snippets baseline compiled ∧
      Summary.Balances run snippets baseline compiled ∧
      (replaceUnits task.paths task.language run.units).Yields start () generated ∧
      final.launches =
        start.launches ++ task.session.commands task.version classpath compiled := by
  intro baseline
  obtain ⟨passage⟩ := Pipeline.nonempty_passage h
  have hleft := passage.snippets_eq_of_normal hmode
  obtain ⟨classpath, hlaunches⟩ := passage.launches_eq
  exact ⟨passage.snippets, _, classpath, passage.generated, passage.extraction_eq,
    passage.accounts hleft hnames, passage.balances hleft hnames, passage.replaces, hlaunches⟩

namespace Capture

/-- A workspace with two snippets. The failure of the first one is accepted. -/
def twoSnippets : Workspace where
  files := ⟨[(["B"], .file "".toUTF8), (["b"], .directory),
    (["b", "baseline-java.json"], .file (Baseline.ofList [.of theSnippet]).toText.toUTF8),
    (["d"], .directory), (["d", "a.m"], .file "```java\n1\n```\n```java\n2\n```".toUTF8)]⟩

/-- What a run tells of its class names and of its summary. -/
def summarized (run : Run) : List String × Nat × Nat × Nat :=
  (run.units.map SourceUnit.className, (Summary.ofRun run).total, (Summary.ofRun run).skipped,
    (Summary.ofRun run).exitCode)

end Capture

open Capture

set_option maxRecDepth 100000 in
/-- A normal run there succeeds: one snippet is skipped, the other one fails, and the run accounts
for both of them. -/
theorem accounts_of_normal_run_twoSnippets :
    ∃ run final, (({} : Pipeline).run (.reading objectionToAny) normalTask).Yields twoSnippets run
        final ∧ summarized run = (["Snippet_java_d_a_m_001"], 1, 1, 1) ∧
      ∃ snippets compiled, normalTask.extraction.run twoSnippets = .ok snippets ∧
        run.AccountsFor snippets ((Baseline.load twoSnippets
          normalTask.paths.baselineFile).toOption.getD .empty) compiled := by
  obtain ⟨run, hrun, htold⟩ := Pipeline.exists_run_yields
    (show ((({} : Pipeline).course (.reading objectionToAny) normalTask).run
      twoSnippets).1.result.toOption.map summarized = some (["Snippet_java_d_a_m_001"], 1, 1, 1) by
        decide +kernel)
  have hnames : run.units.map SourceUnit.className = ["Snippet_java_d_a_m_001"] :=
    congrArg Prod.fst htold
  obtain ⟨snippets, compiled, _, _, hsnippets, haccounts, -⟩ :=
    accounts_of_normal_run rfl hrun (by rw [hnames]; decide)
  exact ⟨run, _, hrun, htold, snippets, compiled, hsnippets, haccounts⟩

end SnippetCheck
