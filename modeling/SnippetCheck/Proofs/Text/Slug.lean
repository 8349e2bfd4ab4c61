import SnippetCheck.Proofs.Text.Lines
import SnippetCheck.Text.Slug

/-!
# Slugs And Runs

A slug is what is left of a text when only its runs of letters and digits are kept, with an
underscore between neighbours. `HasRuns` says which these runs are, without cutting the text.

* `hasRuns_iff`: a text has one sequence of runs, which is `runs`.
* `slug_eq_joinWith`: a slug is the runs of a text, joined by underscores.
* `runs_slug`: a slug has the runs of its text. So a slug tells the runs, and is its own slug.
* `nil_not_mem_splitAt_slug`: underscores stand in a slug between runs only.
-/

namespace SnippetCheck.Text

/-- The maximal runs of letters and digits of a text, in their order: characters of other kinds
are passed over, and a run goes on up to the next one of them. -/
inductive HasRuns : List Char → List (List Char) → Prop where
  /-- Nothing is left of the text. -/
  | nil : HasRuns [] []
  /-- A character is passed over. -/
  | skip {c : Char} {s : List Char} {found : List (List Char)} (h : isAsciiAlnum c = false)
      (hrest : HasRuns s found) : HasRuns (c :: s) found
  /-- A run stands at the front of the text. -/
  | run {run s : List Char} {found : List (List Char)} (hne : run ≠ [])
      (hrun : ∀ c ∈ run, isAsciiAlnum c = true) (hend : ∀ c ∈ s.head?, isAsciiAlnum c = false)
      (hrest : HasRuns s found) : HasRuns (run ++ s) (run :: found)

variable {run s : List Char} {found rest : List (List Char)} {first : List Char}

/-! ## Runs -/

/-- Letters and digits in front of a text belong to the first part that it is cut into. -/
private theorem cutRuns_append (hrun : ∀ c ∈ run, isAsciiAlnum c = true)
    (h : cutRuns s = first :: rest) : cutRuns (run ++ s) = (run ++ first) :: rest := by
  induction run with
  | nil => exact h
  | cons c run ih =>
    obtain ⟨hc, hrun⟩ := List.forall_mem_cons.1 hrun
    rw [List.cons_append, cutRuns, if_pos hc, ih hrun, consFirst, List.cons_append]

/-- A text that starts with no letter or digit is cut at its start. -/
private theorem exists_cutRuns_eq_nil_cons (h : ∀ c ∈ s.head?, isAsciiAlnum c = false) :
    ∃ rest, cutRuns s = [] :: rest := by
  cases s with
  | nil => exact ⟨[], rfl⟩
  | cons c s =>
    have hc : ¬ isAsciiAlnum c = true := by simpa using h
    exact ⟨cutRuns s, by rw [cutRuns, if_neg hc]⟩

/-- The runs of a text are those that it is cut into. -/
theorem HasRuns.eq_runs (h : HasRuns s found) : found = runs s := by
  induction h with
  | nil => rfl
  | @skip c s found hc _ ih => simp [ih, runs, cutRuns, hc]
  | @run run s found hne hrun hend _ ih =>
    obtain ⟨rest, hrest⟩ := exists_cutRuns_eq_nil_cons hend
    rw [ih, runs, runs, cutRuns_append hrun hrest, hrest]
    simp [hne]

/-- What stands in front of a text that has runs joins the first of them, or is a run itself. -/
private theorem exists_hasRuns_back (s : List Char) :
    ∃ front back found, s = front ++ back ∧ (∀ c ∈ front, isAsciiAlnum c = true) ∧
      (∀ c ∈ back.head?, isAsciiAlnum c = false) ∧ HasRuns back found := by
  induction s with
  | nil => exact ⟨[], [], [], rfl, by simp, by simp, .nil⟩
  | cons c s ih =>
    obtain ⟨front, back, found, rfl, hfront, hback, hruns⟩ := ih
    cases hc : isAsciiAlnum c with
    | true => exact ⟨c :: front, back, found, rfl, by simpa [hc] using hfront, hback, hruns⟩
    | false =>
      refine ⟨[], c :: (front ++ back), ?_⟩
      by_cases hne : front = []
      · subst hne
        exact ⟨found, rfl, by simp, by simpa using hc, .skip hc hruns⟩
      · exact ⟨front :: found, rfl, by simp, by simpa using hc,
          .skip hc (.run hne hfront hback hruns)⟩

/-- A text has one sequence of runs. -/
theorem hasRuns_iff : HasRuns s found ↔ found = runs s := by
  refine ⟨HasRuns.eq_runs, ?_⟩
  rintro rfl
  obtain ⟨front, back, found, rfl, hfront, hback, hruns⟩ := exists_hasRuns_back s
  by_cases hne : front = []
  · subst hne
    rw [List.nil_append, ← hruns.eq_runs]
    exact hruns
  · have hall := HasRuns.run hne hfront hback hruns
    rw [← hall.eq_runs]
    exact hall

/-- A run is not empty and consists of letters and digits. -/
theorem HasRuns.of_mem (h : HasRuns s found) (hmem : run ∈ found) :
    run ≠ [] ∧ ∀ c ∈ run, isAsciiAlnum c = true := by
  induction h with
  | nil => cases hmem
  | skip _ _ ih => exact ih hmem
  | run hne hrun _ _ ih =>
    rcases List.mem_cons.1 hmem with rfl | hmem
    · exact ⟨hne, hrun⟩
    · exact ih hmem

/-! ## Slugs -/

/-- Letters and digits in front of the rest of a slug are kept, up to the next gap. -/
private theorem slugRest_append (hrun : ∀ c ∈ run, isAsciiAlnum c = true)
    (hend : ∀ c ∈ s.head?, isAsciiAlnum c = false) :
    slugRest false (run ++ s) = run ++ slugRest true s := by
  induction run with
  | nil =>
    cases s with
    | nil => rfl
    | cons c s =>
      have hc : isAsciiAlnum c = false := by simpa using hend
      simp [slugRest, hc]
  | cons c run ih =>
    obtain ⟨hc, hrun⟩ := List.forall_mem_cons.1 hrun
    simp [slugRest, hc, ih hrun]

/-- Behind a gap, the rest of a slug is the runs that follow, with an underscore in front of
each. -/
private theorem HasRuns.slugRest_eq (h : HasRuns s found) :
    slugRest true s = found.flatMap fun run => '_' :: run := by
  induction h with
  | nil => rfl
  | skip hc _ ih => simp [slugRest, hc, ih]
  | @run run s found hne hrun hend _ ih =>
    obtain ⟨c, run, rfl⟩ := List.exists_cons_of_ne_nil hne
    obtain ⟨hc, hrun⟩ := List.forall_mem_cons.1 hrun
    rw [List.cons_append, slugRest, if_pos hc, if_pos rfl, slugRest_append hrun hend, ih]
    rfl

/-- A slug is the runs of its text, joined by underscores. -/
theorem HasRuns.slug_eq (h : HasRuns s found) : slug s = joinWith '_' found := by
  induction h with
  | nil => rfl
  | @skip c s found hc _ ih => rw [← ih, slug, slug, List.dropWhile_cons_of_pos (by simp [hc])]
  | @run run s found hne hrun hend hrest _ =>
    have hdrop : (run ++ s).dropWhile (fun c => !isAsciiAlnum c) = run ++ s := by
      obtain ⟨c, run, rfl⟩ := List.exists_cons_of_ne_nil hne
      rw [List.cons_append, List.dropWhile_cons_of_neg (by simp [hrun])]
    rw [slug, hdrop, slugRest_append hrun hend, hrest.slugRest_eq, joinWith_cons]

/-- A slug is the runs of its text, joined by underscores. -/
theorem slug_eq_joinWith (s : List Char) : slug s = joinWith '_' (runs s) :=
  (hasRuns_iff.2 rfl).slug_eq

/-- Runs that are joined by underscores are the runs of the text that they make up. -/
private theorem hasRuns_joinWith
    (h : ∀ run ∈ found, run ≠ [] ∧ ∀ c ∈ run, isAsciiAlnum c = true) :
    HasRuns (joinWith '_' found) found := by
  induction found with
  | nil => exact .nil
  | cons run found ih =>
    obtain ⟨⟨hne, hrun⟩, hfound⟩ := List.forall_mem_cons.1 h
    cases found with
    | nil => simpa [joinWith] using HasRuns.run hne hrun (by simp) .nil
    | cons next found =>
      have hgap : isAsciiAlnum '_' = false := rfl
      rw [joinWith.eq_3 _ _ _ (List.cons_ne_nil next found)]
      exact .run hne hrun (by simpa using hgap) (.skip hgap (ih hfound))

/-- The runs of a text are not empty and consist of letters and digits. -/
theorem of_mem_runs (h : run ∈ runs s) : run ≠ [] ∧ ∀ c ∈ run, isAsciiAlnum c = true :=
  (hasRuns_iff.2 rfl).of_mem h

/-- A slug has the runs of its text. -/
@[simp]
theorem runs_slug (s : List Char) : runs (slug s) = runs s := by
  rw [slug_eq_joinWith]
  exact (hasRuns_joinWith fun _ => of_mem_runs).eq_runs.symm

/-- A slug is its own slug. -/
@[simp]
theorem slug_slug (s : List Char) : slug (slug s) = slug s := by
  rw [slug_eq_joinWith, runs_slug, ← slug_eq_joinWith]

/-- Two texts have one slug just when they have the same runs. -/
theorem slug_eq_slug_iff {s t : List Char} : slug s = slug t ↔ runs s = runs t := by
  constructor
  · intro h
    rw [← runs_slug s, h, runs_slug]
  · intro h
    rw [slug_eq_joinWith, h, ← slug_eq_joinWith]

/-- Underscores stand in a slug between runs only: no part of it between them is empty, unless
the slug is empty. -/
theorem nil_not_mem_splitAt_slug (h : slug s ≠ []) : [] ∉ splitAt '_' (slug s) := by
  have hne : runs s ≠ [] := by
    rintro hnil
    rw [slug_eq_joinWith, hnil] at h
    exact h rfl
  have hunderscore : ∀ run ∈ runs s, '_' ∉ run := by
    intro run hmem hin
    exact absurd ((of_mem_runs hmem).2 '_' hin) (by decide)
  rw [slug_eq_joinWith, splitAt_joinWith hne hunderscore]
  exact fun hmem => (of_mem_runs hmem).1 rfl

/-- A slug neither starts nor ends with an underscore, and no two of them stand side by side in
it. -/
theorem underscores_slug (s : List Char) :
    ¬ ['_', '_'] <:+: slug s ∧ ¬ ['_'] <+: slug s ∧ ¬ ['_'] <:+ slug s := by
  -- any of these would leave an empty part
  have hparts (front back : List Char) (h : front ++ '_' :: back = slug s) :
      [] ∉ splitAt '_' front ++ splitAt '_' back := by
    rw [← splitAt_append_cons, h]
    refine nil_not_mem_splitAt_slug fun hnil => ?_
    rw [hnil] at h
    simp at h
  refine ⟨?_, ?_, ?_⟩
  · rintro ⟨front, back, h⟩
    exact hparts front ('_' :: back) (by simpa using h) (by simp [splitAt])
  · rintro ⟨back, h⟩
    exact hparts [] back h (by simp [splitAt])
  · rintro ⟨front, h⟩
    exact hparts front [] h (by simp [splitAt])

end SnippetCheck.Text
