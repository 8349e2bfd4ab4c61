import SnippetCheck.Proofs.Files.Parent
import SnippetCheck.Proofs.Files.Removal

/-!
# Paths Relative To A Base

What is left of a path when the steps of a base are removed from its front (`Path.stripPrefix?`)
says where the path leads from there, if all of it are names (`target_of_stripPrefix?`). A path that
does not start with the steps of the base leads elsewhere, if neither of them leads up
(`not_isPrefix_of_stripPrefix?`).
-/

namespace SnippetCheck.Files

open SnippetCheck.Text Path

/-- Take one step of a path. -/
def advance (location : Location) : Component → Location
  | .root => []
  | .here => location
  | .up => location.dropLast
  | .name text => location ++ [String.ofList text]

/-- A text whose parts are names. -/
def IsPlain (path : String) : Prop :=
  ∀ part ∈ parts path, IsName part

instance (path : String) : Decidable (IsPlain path) :=
  inferInstanceAs (Decidable (∀ part ∈ parts path, IsName part))

/-- The steps that parts name. -/
def stepsOf (parts : List (List Char)) : List Component :=
  (loud parts).map component

/-! ## Where steps lead -/

/-- A part that is not silent leads where its step does. -/
private theorem follow_ofList {part : List Char} (h : isSilent part = false) (location : Location) :
    follow location (String.ofList part) = advance location (component part) := by
  by_cases hup : part = ['.', '.']
  · subst hup
    rfl
  rw [component, if_neg hup, advance]
  exact follow_of_not_isSilent h hup location

/-- Parts lead where their steps do. -/
private theorem foldl_follow_eq (parts : List (List Char)) (location : Location) :
    (parts.map String.ofList).foldl follow location = (stepsOf parts).foldl advance location := by
  induction parts generalizing location with
  | nil => rfl
  | cons part parts ih =>
    rw [List.map_cons, List.foldl_cons, ih]
    cases hsilent : isSilent part with
    | true =>
      have hloud : stepsOf (part :: parts) = stepsOf parts := by simp [stepsOf, loud, hsilent]
      rw [hloud, follow_of_isSilent hsilent]
    | false =>
      have hloud : stepsOf (part :: parts) = component part :: stepsOf parts := by
        simp [stepsOf, loud, hsilent]
      rw [hloud, List.foldl_cons, follow_ofList hsilent]

/-- How a path is split into what leads it and its parts. -/
private theorem split_cases (path : List Char) :
    (∃ rest, path = '/' :: rest ∧ split path = (['/'], splitAt '/' rest)) ∨
    (path = ['.'] ∧ split path = (['.'], [])) ∨
    (∃ rest, path = '.' :: '/' :: rest ∧ split path = (['.'], [] :: splitAt '/' rest)) ∨
    isAbsolute path = false ∧ split path = ([], splitAt '/' path) := by
  unfold split
  split
  next rest => exact .inl ⟨rest, rfl, rfl⟩
  next => exact .inr (.inl ⟨rfl, rfl⟩)
  next rest => exact .inr (.inr (.inl ⟨rest, rfl, rfl⟩))
  next hslash _ _ =>
    refine .inr (.inr (.inr ⟨?_, rfl⟩))
    rw [isAbsolute, decide_eq_false_iff_not]
    intro hhead
    obtain ⟨rest, rfl⟩ := List.head?_eq_some_iff.1 hhead
    exact hslash rest rfl

/-- The steps of a path are those of its parts, after that of its leading slash or dot. -/
theorem components_eq (path : List Char) :
    components path = leading (split path).1 ++ stepsOf (split path).2 := rfl

/-- A path leads where its steps do. -/
theorem target_eq_foldl_components (cwd : Location) (path : String) :
    target cwd path = (components path.toList).foldl advance cwd := by
  rw [target, parts, foldl_follow_eq, components_eq, List.foldl_append, start]
  generalize path.toList = chars
  rcases split_cases chars with ⟨rest, rfl, hsplit⟩ | ⟨rfl, hsplit⟩ | ⟨rest, rfl, hsplit⟩ |
      ⟨habsolute, hsplit⟩ <;> rw [hsplit]
  · rw [splitAt, if_pos rfl]
    rfl
  · rfl
  · have hdot : splitAt '/' ('.' :: '/' :: rest) = ['.'] :: splitAt '/' rest := by
      simp [splitAt, consFirst]
    rw [hdot]
    rfl
  · rw [habsolute]
    rfl

/-! ## Removing steps -/

/-- What is left when steps are removed are the parts after them, with the steps that these name. -/
private theorem dropSteps_eq_some {parts rest : List (List Char)} {steps : List Component}
    (h : dropSteps parts steps = some rest) :
    rest <:+ parts ∧ stepsOf parts = steps ++ stepsOf rest := by
  induction parts, steps using dropSteps.induct with
  | case1 parts =>
    rw [dropSteps] at h
    rw [Option.some.inj h]
    exact ⟨List.suffix_rfl, rfl⟩
  | case2 => cases h
  | case3 part parts step steps hsilent ih =>
    rw [dropSteps, if_pos hsilent] at h
    obtain ⟨hsuffix, hsteps⟩ := ih h
    refine ⟨hsuffix.trans (List.suffix_cons _ _), ?_⟩
    rw [← hsteps]
    simp [stepsOf, loud, hsilent]
  | case4 part parts steps hsilent ih =>
    rw [dropSteps, if_neg hsilent, if_pos rfl] at h
    obtain ⟨hsuffix, hsteps⟩ := ih h
    refine ⟨hsuffix.trans (List.suffix_cons _ _), ?_⟩
    rw [List.cons_append, ← hsteps]
    simp [stepsOf, loud, hsilent]
  | case5 part parts step steps hsilent hstep =>
    rw [dropSteps, if_neg hsilent, if_neg hstep] at h
    cases h

/-- Steps that cannot be removed do not come first. -/
private theorem not_isPrefix_stepsOf {parts : List (List Char)} {steps : List Component}
    (h : dropSteps parts steps = none) : ¬ steps <+: stepsOf parts := by
  induction parts, steps using dropSteps.induct with
  | case1 parts =>
    rw [dropSteps] at h
    cases h
  | case2 => simp [stepsOf, loud]
  | case3 part parts step steps hsilent ih =>
    rw [dropSteps, if_pos hsilent] at h
    have hsame : stepsOf (part :: parts) = stepsOf parts := by simp [stepsOf, loud, hsilent]
    rw [hsame]
    exact ih h
  | case4 part parts steps hsilent ih =>
    rw [dropSteps, if_neg hsilent, if_pos rfl] at h
    have hsame : stepsOf (part :: parts) = component part :: stepsOf parts := by
      simp [stepsOf, loud, hsilent]
    rw [hsame, List.cons_prefix_cons]
    exact fun hprefix => ih h hprefix.2
  | case5 part parts step steps hsilent hstep =>
    have hsame : stepsOf (part :: parts) = component part :: stepsOf parts := by
      simp [stepsOf, loud, hsilent]
    rw [hsame, List.cons_prefix_cons]
    exact fun hprefix => hstep hprefix.1.symm

/-- No part of a path holds a slash. -/
private theorem slash_not_mem_of_mem_split {path part : List Char} (h : part ∈ (split path).2) :
    '/' ∉ part := by
  rcases split_cases path with ⟨rest, -, hsplit⟩ | ⟨-, hsplit⟩ | ⟨rest, -, hsplit⟩ | ⟨-, hsplit⟩ <;>
    rw [hsplit] at h
  · exact sep_not_mem_of_mem_splitAt h
  · cases h
  · rcases List.mem_cons.1 h with rfl | hmem
    · simp
    · exact sep_not_mem_of_mem_splitAt hmem
  · exact sep_not_mem_of_mem_splitAt h

/-- What is left of a path when a prefix is removed: the path but for silent parts at its end if
there is no step to remove, else the parts after the steps of the prefix. -/
private theorem stripPrefixChars_eq_some {path base rest : List Char}
    (h : stripPrefixChars path base = some rest) :
    (components base = [] ∧ rest = (split path).1 ++ joinWith '/' (dropSilentEnd (split path).2)) ∨
    ∃ later, components path = components base ++ stepsOf later ∧ (∀ part ∈ later, '/' ∉ part) ∧
      rest = joinWith '/' (dropSilentEnd (later.dropWhile isSilent)) := by
  rw [stripPrefixChars] at h
  dsimp only at h
  have hafter {steps : List Component} {tidied : List Char}
      (hdrop : (dropSteps (split path).2 steps).map
        (fun parts => joinWith '/' (dropSilentEnd (parts.dropWhile isSilent))) = some tidied) :
      ∃ later, stepsOf (split path).2 = steps ++ stepsOf later ∧ (∀ part ∈ later, '/' ∉ part) ∧
        tidied = joinWith '/' (dropSilentEnd (later.dropWhile isSilent)) := by
    obtain ⟨later, hlater, rfl⟩ := Option.map_eq_some_iff.1 hdrop
    obtain ⟨hsuffix, hsteps⟩ := dropSteps_eq_some hlater
    exact ⟨later, hsteps, fun part hmem => slash_not_mem_of_mem_split (hsuffix.subset hmem), rfl⟩
  split at h
  next _ _ hnone => exact .inl ⟨hnone, (Option.some.inj h).symm⟩
  next _ steps hlead hsteps =>
    obtain ⟨later, hlater, hslash, rfl⟩ := hafter h
    refine .inr ⟨later, ?_, hslash, rfl⟩
    rw [components_eq, hlead, List.nil_append, hlater]
  next first others step steps hlead hsteps =>
    split at h
    next hfirst =>
      obtain ⟨later, hlater, hslash, rfl⟩ := hafter h
      refine .inr ⟨later, ?_, hslash, rfl⟩
      have hothers : others = [] := by
        have hone : (leading (split path).1).length ≤ 1 := by
          unfold leading
          repeat (split; · simp)
          simp
        rw [hlead, List.length_cons] at hone
        exact List.length_eq_zero_iff.1 (by omega)
      rw [components_eq, hlead, hothers, hsteps, hlater, hfirst]
      rfl
    next => cases h

/-! ## Plain paths -/

/-- Parts of a plain path that are joined are its parts. -/
private theorem parts_joinWith {names : List (List Char)} (hslash : ∀ name ∈ names, '/' ∉ name)
    (h : IsPlain (String.ofList (joinWith '/' names))) :
    parts (String.ofList (joinWith '/' names)) = names.map String.ofList := by
  have hne : names ≠ [] := by
    rintro rfl
    exact (h "" (by simp [parts, joinWith, splitAt])).ne_empty rfl
  rw [parts, String.toList_ofList, splitAt_joinWith hne hslash]

/-- Names are the steps that they name. -/
private theorem stepsOf_of_isName {names : List (List Char)}
    (h : ∀ name ∈ names, IsName (String.ofList name)) : stepsOf names = names.map .name := by
  have hloud : loud names = names := by
    refine List.filter_eq_self.2 fun name hmem => ?_
    have hsilent := isSilent_toList (h name hmem)
    rw [String.toList_ofList] at hsilent
    rw [hsilent]
    rfl
  rw [stepsOf, hloud]
  refine List.map_congr_left fun name hmem => if_neg ?_
  rintro rfl
  exact (h _ hmem).ne_up rfl

/-- Names lead down. -/
private theorem foldl_advance_names (names : List (List Char)) (location : Location) :
    (names.map .name).foldl advance location = location ++ names.map String.ofList := by
  induction names generalizing location with
  | nil => simp
  | cons name names ih =>
    rw [List.map_cons, List.foldl_cons, ih, advance]
    simp

/-- Silent parts at the end name no steps. -/
private theorem stepsOf_dropSilentEnd (parts : List (List Char)) :
    stepsOf (dropSilentEnd parts) = stepsOf parts := by
  rw [stepsOf, loud_dropSilentEnd, stepsOf]

/-- Silent parts in front name no steps. -/
private theorem stepsOf_dropWhile (parts : List (List Char)) :
    stepsOf (parts.dropWhile isSilent) = stepsOf parts := by
  have hfront : loud (parts.takeWhile isSilent) = [] := by
    rw [loud, List.filter_eq_nil_iff]
    intro part hmem
    simpa using List.all_eq_true.1 List.all_takeWhile part hmem
  have hall := List.takeWhile_append_dropWhile (p := isSilent) (l := parts)
  rw [stepsOf, stepsOf, ← congrArg loud hall, loud_append, hfront, List.nil_append]

/-- Nothing leads a plain path. -/
private theorem nil_of_isPlain {path : List Char}
    (h : IsPlain (String.ofList ((split path).1 ++ joinWith '/' (dropSilentEnd (split path).2)))) :
    (split path).1 = [] := by
  have hnot {text : List Char} (part : String) (hpart : ¬ IsName part)
      (hmem : part.toList ∈ splitAt '/' text) : ¬ IsPlain (String.ofList text) := by
    intro hplain
    refine hpart (hplain part ?_)
    rw [parts, String.toList_ofList, ← String.ofList_toList (s := part)]
    exact List.mem_map_of_mem hmem
  rcases split_cases path with ⟨rest, -, hsplit⟩ | ⟨-, hsplit⟩ | ⟨rest, -, hsplit⟩ | ⟨-, hsplit⟩ <;>
    rw [hsplit] at h ⊢
  · -- there would be an empty part in front of the slash
    exact absurd h (hnot "" (fun hname => hname.ne_empty rfl) (by simp [splitAt]))
  · exact absurd h (hnot "." (fun hname => hname.ne_here rfl) (by decide))
  · refine absurd h (hnot "." (fun hname => hname.ne_here rfl) ?_)
    show ['.'] ∈ splitAt '/' ('.' :: joinWith '/' (dropSilentEnd ([] :: splitAt '/' rest)))
    have hprefix := isPrefix_dropSilentEnd ([] :: splitAt '/' rest)
    rcases hparts : dropSilentEnd ([] :: splitAt '/' rest) with _ | ⟨part, _ | ⟨next, later⟩⟩
    · decide
    all_goals
      rw [hparts] at hprefix
      obtain ⟨rfl, -⟩ := List.cons_prefix_cons.1 hprefix
    · decide
    · simp [joinWith, splitAt, consFirst]

/-- What is left of a path when a base is removed says where it leads from there, if it is plain. -/
theorem target_of_stripPrefix? {path base rest : String} (h : stripPrefix? path base = some rest)
    (hplain : IsPlain rest) (cwd : Location) :
    target cwd path = target cwd base ++ parts rest := by
  obtain ⟨chars, hchars, rfl⟩ := Option.map_eq_some_iff.1 h
  rw [target_eq_foldl_components, target_eq_foldl_components]
  rcases stripPrefixChars_eq_some hchars with ⟨hbase, rfl⟩ | ⟨later, hpath, hslash, rfl⟩
  · have hslash : ∀ name ∈ dropSilentEnd (split path.toList).2, '/' ∉ name := fun name hmem =>
      slash_not_mem_of_mem_split ((isPrefix_dropSilentEnd _).subset hmem)
    have hlead := nil_of_isPlain hplain
    rw [hlead, List.nil_append] at hplain ⊢
    have hparts := parts_joinWith hslash hplain
    rw [hparts, hbase, components_eq, hlead, ← stepsOf_dropSilentEnd, stepsOf_of_isName]
    · exact foldl_advance_names _ _
    · exact fun name hmem => hplain _ (hparts ▸ List.mem_map_of_mem hmem)
  · have hslash' : ∀ name ∈ dropSilentEnd (later.dropWhile isSilent), '/' ∉ name :=
      fun name hmem => hslash name
        ((List.dropWhile_suffix _).subset ((isPrefix_dropSilentEnd _).subset hmem))
    have hparts := parts_joinWith hslash' hplain
    rw [hparts, hpath, List.foldl_append, ← stepsOf_dropWhile, ← stepsOf_dropSilentEnd,
      stepsOf_of_isName, foldl_advance_names]
    intro name hmem
    exact hplain _ (hparts ▸ List.mem_map_of_mem hmem)

/-- The steps of parts that do not lead up are names. -/
private theorem stepsOf_of_not_up {parts : List (List Char)} (h : ['.', '.'] ∉ parts) :
    stepsOf parts = (loud parts).map .name := by
  refine List.map_congr_left fun part hmem => if_neg ?_
  rintro rfl
  exact h (List.mem_filter.1 hmem).1

/-- A plain path below the root that does not start with the steps of an absolute base leads out of
it, if the base leads nowhere up. -/
theorem not_isPrefix_of_stripPrefix? {rest base : String}
    (h : stripPrefix? ("/" ++ rest) base = none) (hplain : IsPlain rest)
    (habsolute : isAbsolute base.toList = true) (hbase : ".." ∉ parts base) (cwd : Location) :
    target cwd ("/" ++ rest) = parts rest ∧ ¬ target cwd base <+: parts rest := by
  have hpath : ("/" ++ rest).toList = '/' :: rest.toList := by simp
  have hnames : stepsOf (splitAt '/' rest.toList) = (splitAt '/' rest.toList).map .name :=
    stepsOf_of_isName fun name hmem => hplain _ (List.mem_map_of_mem hmem)
  obtain ⟨below, hbelow⟩ := List.head?_eq_some_iff.1 (of_decide_eq_true habsolute)
  have hup : ['.', '.'] ∉ splitAt '/' below := by
    intro hmem
    refine hbase ?_
    rw [parts, hbelow, splitAt, if_pos rfl]
    exact List.mem_map_of_mem (f := String.ofList) (List.mem_cons_of_mem _ hmem)
  have hsteps : components base.toList = .root :: (loud (splitAt '/' below)).map .name := by
    rw [hbelow, ← stepsOf_of_not_up hup]
    rfl
  have htarget : target cwd base = (loud (splitAt '/' below)).map String.ofList := by
    rw [target_eq_foldl_components, hsteps, List.foldl_cons, foldl_advance_names]
    rfl
  constructor
  · rw [target_eq_foldl_components, hpath]
    show (stepsOf (splitAt '/' rest.toList)).foldl advance [] = _
    rw [hnames, foldl_advance_names]
    rfl
  · -- the steps of the base could be removed
    have hdrop : dropSteps (splitAt '/' rest.toList) ((loud (splitAt '/' below)).map .name) =
        none := by
      rw [stripPrefix?, Option.map_eq_none_iff, hpath, stripPrefixChars, hsteps] at h
      exact Option.map_eq_none_iff.1 h
    have hnot := not_isPrefix_stepsOf hdrop
    rw [hnames, List.prefix_map_iff_of_injective fun _ _ => Component.name.inj] at hnot
    rw [htarget, parts, List.prefix_map_iff_of_injective fun _ _ => String.ofList_injective]
    exact hnot

end SnippetCheck.Files
