import SnippetCheck.Proofs.Files.Removal

/-!
# Walks

The files below a location are listed with the names on the way to them (`mem_filesBelow_iff`), each
once and in their order, so that the list is determined by which files there are
(`filter_filesBelow_eq`). Joined to a path that leads to the location, these names give a path that
leads to the file (`target_foldl_join`), whose extension is that of the file
(`extension?_foldl_join`).
-/

namespace SnippetCheck.Files

open SnippetCheck.Text Path

/-! ## The files below a location -/

section Order

/-- The order of locations is transitive. -/
private theorem locationLe_trans {a b c : Location} (hab : locationLe a b = true)
    (hbc : locationLe b c = true) : locationLe a c = true := by
  induction a generalizing b c with
  | nil => rfl
  | cons name a ih =>
    cases b with
    | nil => cases hab
    | cons other b =>
      cases c with
      | nil => cases hbc
      | cons last c =>
        unfold locationLe at hab hbc ⊢
        by_cases hname : name = other
        · subst hname
          by_cases hlast : name = last
          · subst hlast
            simp only [↓reduceIte] at hab hbc ⊢
            exact ih hab hbc
          · simpa [hlast] using hbc
        · rw [if_neg hname, decide_eq_true_eq] at hab
          by_cases hlast : other = last
          · subst hlast
            rwa [if_neg hname, decide_eq_true_eq]
          · rw [if_neg hlast, decide_eq_true_eq] at hbc
            have hlt := String.lt_trans hab hbc
            rw [if_neg fun heq => String.lt_irrefl _ (heq ▸ hlt), decide_eq_true_eq]
            exact hlt

/-- Of two locations, one comes first. -/
private theorem locationLe_total (a b : Location) :
    (locationLe a b || locationLe b a) = true := by
  induction a generalizing b with
  | nil => rfl
  | cons name a ih =>
    cases b with
    | nil => rfl
    | cons other b =>
      unfold locationLe
      by_cases hname : name = other
      · subst hname
        simpa using ih b
      · rw [if_neg hname, if_neg (Ne.symm hname), Bool.or_eq_true, decide_eq_true_eq,
          decide_eq_true_eq]
        by_contra hneither
        obtain ⟨hlt, hgt⟩ := not_or.1 hneither
        exact hname (String.le_antisymm (String.not_lt.1 hgt) (String.not_lt.1 hlt))

/-- Locations that come before each other are the same. -/
private theorem locationLe_antisymm {a b : Location} (hab : locationLe a b = true)
    (hba : locationLe b a = true) : a = b := by
  induction a generalizing b with
  | nil =>
    cases b with
    | nil => rfl
    | cons other b => cases hba
  | cons name a ih =>
    cases b with
    | nil => cases hab
    | cons other b =>
      unfold locationLe at hab hba
      by_cases hname : name = other
      · subst hname
        simp only [↓reduceIte] at hab hba
        rw [ih hab hba]
      · rw [if_neg hname, decide_eq_true_eq] at hab
        rw [if_neg (Ne.symm hname), decide_eq_true_eq] at hba
        exact absurd (String.lt_trans hab hba) (String.lt_irrefl _)

end Order

namespace Tree

variable {tree other : Tree} {cwd location : Location} {names : List String} {node : Node}

/-- A proper tree lists the nodes that stand in it. -/
theorem Proper.mem_entries_iff (h : tree.Proper) (hlocation : location ≠ []) :
    (location, node) ∈ tree.entries ↔ tree.get? location = some node := by
  rw [get?, if_neg hlocation, List.lookup_eq_some_iff]
  constructor
  · intro hmem
    obtain ⟨before, after, hentries⟩ := List.append_of_mem hmem
    refine ⟨before, after, hentries, fun entry hentry => ?_⟩
    -- the location is not listed before
    have hnodup := h.nodup
    rw [hentries, List.map_append, List.map_cons, List.nodup_append] at hnodup
    exact bne_iff_ne.2 (hnodup.2.2 _ (List.mem_map_of_mem hentry) _ List.mem_cons_self).symm
  · rintro ⟨before, after, hentries, -⟩
    rw [hentries]
    simp

/-- The names on the way to a file below a location. -/
private def namesTo? (location : Location) (entry : Location × Node) : Option (List String) :=
  if location.isPrefixOf entry.1 && location.length < entry.1.length then
    if entry.2.isFile then some (entry.1.drop location.length) else none
  else none

/-- An entry has names below a location just when these lead to it, and it is a file. -/
private theorem namesTo?_eq_some {entry : Location × Node} :
    namesTo? location entry = some names ↔
      names ≠ [] ∧ entry.1 = location ++ names ∧ entry.2.isFile = true := by
  unfold namesTo?
  constructor
  · intro h
    split at h
    next hinside =>
      rw [Bool.and_eq_true, List.isPrefixOf_iff_prefix, decide_eq_true_eq] at hinside
      obtain ⟨⟨rest, hrest⟩, hlength⟩ := hinside
      split at h
      next hfile =>
        rw [← hrest, List.drop_left, Option.some.injEq] at h
        subst h
        refine ⟨?_, hrest.symm, hfile⟩
        rintro rfl
        simp [← hrest] at hlength
      next => cases h
    next => cases h
  · rintro ⟨hne, hentry, hfile⟩
    simp [hentry, hfile, List.length_pos_iff.2 hne]

/-- The files below a location are those of the entries. -/
private theorem filesBelow_eq (tree : Tree) (location : Location) :
    tree.filesBelow location =
      (tree.entries.filterMap (namesTo? location)).mergeSort locationLe := by
  rw [filesBelow, below, List.filterMap_filterMap]
  congr 2
  funext entry
  obtain ⟨other, node⟩ := entry
  dsimp only [namesTo?]
  split
  · rfl
  · rfl

/-- The files below a location are those that stand there, with the names on the way. -/
theorem Proper.mem_filesBelow_iff (h : tree.Proper) :
    names ∈ tree.filesBelow location ↔
      names ≠ [] ∧ (tree.fileAt? (location ++ names)).isSome = true := by
  rw [filesBelow_eq, List.mem_mergeSort, List.mem_filterMap]
  simp only [namesTo?_eq_some]
  constructor
  · rintro ⟨⟨other, node⟩, hmem, hne, rfl, hfile⟩
    rw [h.mem_entries_iff (by simp [hne])] at hmem
    cases node with
    | file bytes =>
      rw [fileAt?_eq_some.2 hmem]
      exact ⟨hne, rfl⟩
    | directory => cases hfile
  · rintro ⟨hne, hsome⟩
    obtain ⟨bytes, hfile⟩ := Option.isSome_iff_exists.1 hsome
    exact ⟨_, (h.mem_entries_iff (by simp [hne])).2 (fileAt?_eq_some.1 hfile), hne, rfl, rfl⟩

/-- No file is listed twice. -/
theorem Proper.nodup_filesBelow (h : tree.Proper) (location : Location) :
    (tree.filesBelow location).Nodup := by
  rw [filesBelow_eq, (List.mergeSort_perm _ _).nodup_iff]
  refine List.Pairwise.filterMap _ ?_ (List.pairwise_map.1 h.nodup)
  intro entry entry' hne names hnames names' hnames' heq
  rw [(namesTo?_eq_some.1 hnames).2.1, (namesTo?_eq_some.1 hnames').2.1, heq] at hne
  exact hne rfl

/-- The files below a location that satisfy a condition are determined by which they are. -/
theorem filter_filesBelow_eq (h : tree.Proper) (hother : other.Proper)
    {condition : List String → Bool}
    (hsame : ∀ names, condition names = true →
      ((other.fileAt? (location ++ names)).isSome = true ↔
        (tree.fileAt? (location ++ names)).isSome = true)) :
    (other.filesBelow location).filter condition = (tree.filesBelow location).filter condition := by
  have hsorted (tree : Tree) :
      ((tree.filesBelow location).filter condition).Pairwise fun a b => locationLe a b = true :=
    (@List.pairwise_mergeSort _ locationLe (fun _ _ _ => locationLe_trans) locationLe_total
      _).filter _
  refine List.Perm.eq_of_pairwise (fun a b _ _ => locationLe_antisymm) (hsorted other)
    (hsorted tree) ?_
  refine (List.perm_ext_iff_of_nodup ((hother.nodup_filesBelow location).filter _)
    ((h.nodup_filesBelow location).filter _)).2 fun names => ?_
  rw [List.mem_filter, List.mem_filter, h.mem_filesBelow_iff, hother.mem_filesBelow_iff]
  constructor
  · rintro ⟨⟨hne, hfile⟩, hcondition⟩
    exact ⟨⟨hne, (hsame names hcondition).1 hfile⟩, hcondition⟩
  · rintro ⟨⟨hne, hfile⟩, hcondition⟩
    exact ⟨⟨hne, (hsame names hcondition).2 hfile⟩, hcondition⟩

/-- On the way to what stands in a proper tree are names. -/
theorem Proper.isName_of_isSome (h : tree.Proper) (hsome : (tree.get? location).isSome = true)
    {name : String} (hmem : name ∈ location) : IsName name := by
  obtain ⟨node, hnode⟩ := Option.isSome_iff_exists.1 hsome
  exact h.names _ ((h.mem_entries_iff (List.ne_nil_of_mem hmem)).2 hnode) name hmem

end Tree

/-- What something stands below is a directory. -/
theorem Tree.Proper.get?_above {tree : Tree} {location : Location} {names : List String}
    (h : tree.Proper) (hsome : (tree.get? (location ++ names)).isSome = true) (hne : names ≠ []) :
    tree.get? location = some .directory := by
  induction names using List.reverseRecOn with
  | nil => exact absurd rfl hne
  | append_singleton names name ih =>
    rw [← List.append_assoc] at hsome
    have hdirectory := h.closed _ _ hsome
    cases names with
    | nil => rwa [List.append_nil] at hdirectory
    | cons first names => exact ih (by rw [hdirectory]; rfl) (List.cons_ne_nil _ _)

/-! ## Paths to files -/

/-- Names that are joined to a path lead on from where it leads. -/
theorem target_foldl_join {names : List String} (h : ∀ name ∈ names, IsName name) (cwd : Location)
    (base : String) : target cwd (names.foldl Path.join base) = target cwd base ++ names := by
  induction names generalizing base with
  | nil => simp
  | cons name names ih =>
    obtain ⟨hname, hnames⟩ := List.forall_mem_cons.1 h
    rw [List.foldl_cons, ih hnames, target_join hname]
    simp

/-- On the way to names that are joined to a path are the way that the path takes and what leads on
from its end along the names. -/
theorem mem_stages_foldl_join {names : List String} (h : ∀ name ∈ names, IsName name)
    {cwd stage : Location} {base : String}
    (hstage : stage ∈ stages cwd (names.foldl Path.join base)) :
    stage ∈ stages cwd base ∨ ∃ before, before <+: names ∧ stage = target cwd base ++ before := by
  induction names generalizing base with
  | nil => exact .inl hstage
  | cons name names ih =>
    obtain ⟨hname, hnames⟩ := List.forall_mem_cons.1 h
    rcases ih hnames hstage with hfirst | ⟨before, hbefore, hend⟩
    · rcases (mem_stages_join hname base).1 hfirst with hbase | hend
      · exact .inl hbase
      · exact .inr ⟨[name], by simp, hend.trans (target_join hname cwd base)⟩
    · refine .inr ⟨name :: before, (List.prefix_cons_inj name).2 hbefore, ?_⟩
      rw [hend, target_join hname, List.append_assoc, List.singleton_append]

/-- What stands above a directory is a directory. -/
theorem Tree.Proper.get?_dropLast {tree : Tree} {location : Location} (h : tree.Proper)
    (hdirectory : tree.get? location = some .directory) :
    tree.get? location.dropLast = some .directory := by
  rcases List.eq_nil_or_concat location with rfl | ⟨above, name, rfl⟩
  · rfl
  · rw [List.concat_eq_append] at hdirectory ⊢
    rw [List.dropLast_concat]
    exact h.closed above name (by rw [hdirectory]; rfl)

/-- A path that leads to a file has its name. -/
theorem Tree.fileName?_of_locate {tree : Tree} {cwd location : Location} {path : String}
    (h : tree.Proper) (hlocate : tree.locate cwd path = .ok location)
    (hfile : (tree.fileAt? location).isSome = true) :
    ∃ name, fileName? path = some name ∧ location.getLast? = some name := by
  have hnot : tree.get? location ≠ some .directory := get?_ne_directory hfile
  rcases List.eq_nil_or_concat (splitAt '/' path.toList) with hnil | ⟨before, last, hsplit⟩
  · exact absurd hnil (splitAt_ne_nil _ _)
  rw [List.concat_eq_append] at hsplit
  unfold locate at hlocate
  split at hlocate
  · cases hlocate
  split at hlocate
  · cases hlocate
  rw [parts, hsplit, List.map_append, List.foldlM_append] at hlocate
  cases hdir : (before.map String.ofList).foldlM tree.enter (start cwd path) with
  | error refusal =>
    rw [hdir] at hlocate
    cases hlocate
  | ok dir =>
    rw [hdir] at hlocate
    have hlast : tree.enter dir (String.ofList last) = .ok location := by
      change [String.ofList last].foldlM tree.enter dir = .ok location at hlocate
      rwa [List.foldlM_cons, funext fun _ => List.foldlM_nil, bind_pure] at hlocate
    obtain ⟨hdirectory, rfl⟩ := Tree.enter_eq_follow hlast
    -- a last part that is no name would lead to a directory
    have hsilent : isSilent last = false := by
      by_contra hsilent
      rw [follow_of_isSilent (by simpa using hsilent)] at hnot
      exact hnot hdirectory
    have hup : last ≠ ['.', '.'] := by
      rintro rfl
      exact hnot (h.get?_dropLast hdirectory)
    refine ⟨String.ofList last, ?_, ?_⟩
    · simpa using fileName?_of_splitAt hsilent hup hsplit
    · rw [follow_of_not_isSilent hsilent hup, List.getLast?_concat]

/-- The extension of a path that leads to a file is that of the file. -/
theorem Tree.extension?_foldl_join {tree : Tree} {cwd location : Location} {path : String}
    {names : List String} (h : tree.Proper) (hlocate : tree.locate cwd path = .ok location)
    (hfile : (tree.fileAt? (location ++ names)).isSome = true) :
    extension? (names.foldl Path.join path) = extensionAt? (location ++ names) := by
  have hsame {path name : String} {location : Location} (hname : fileName? path = some name)
      (hlast : location.getLast? = some name) : extension? path = extensionAt? location := by
    obtain ⟨chars, hchars, rfl⟩ := Option.map_eq_some_iff.1 hname
    rw [extension?, extensionAt?, hchars, hlast, Option.bind_some, Option.bind_some,
      String.toList_ofList]
  rcases List.eq_nil_or_concat names with rfl | ⟨before, name, rfl⟩
  · rw [List.append_nil] at hfile ⊢
    obtain ⟨name, hname, hlast⟩ := Tree.fileName?_of_locate h hlocate hfile
    exact hsame hname hlast
  · rw [List.concat_eq_append] at hfile ⊢
    have hname : IsName name :=
      h.isName_of_isSome (isSome_get?_of_fileAt? hfile) (by simp)
    rw [List.foldl_append]
    exact hsame (fileName?_join hname _) (by simp)

end SnippetCheck.Files
