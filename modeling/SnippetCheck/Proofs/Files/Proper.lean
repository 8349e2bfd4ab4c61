import SnippetCheck.Proofs.Files.Walk

/-!
# Trees Stay Proper

Whatever is made, written or removed by a path in a tree as file systems have them leaves such a
tree: what is put somewhere has a name and stands in a directory, and what is removed takes with it
all that stands below. So every action on files keeps trees proper (`keeps_properAt_writeText` and
its companions), whether it succeeds or not.
-/

namespace SnippetCheck

namespace Files.Tree

open SnippetCheck.Text

variable {tree after : Tree} {cwd location next : Location} {part path name : String}

/-! ## Changing one location -/

/-- What is put under a name into a directory leaves a proper tree, unless a file takes the place of
a directory. -/
theorem Proper.set (h : tree.Proper) (hname : IsName name)
    (hdirectory : tree.get? location = some .directory) {node : Node}
    (hnode : node = .directory ∨ tree.get? (location ++ [name]) ≠ some .directory) :
    (tree.set (location ++ [name]) node).Proper := by
  have hne : location ≠ location ++ [name] := fun heq => by simpa using congrArg List.length heq
  refine ⟨?_, ?_, fun above below hsome => ?_⟩
  · -- what was listed for the location is not any more
    simp only [Tree.set, erase, eraseIf, List.map_cons, List.nodup_cons]
    refine ⟨?_, h.nodup.sublist (List.filter_sublist.map _)⟩
    rintro hmem
    obtain ⟨entry, hentry, heq⟩ := List.mem_map.1 hmem
    simpa [heq] using (List.mem_filter.1 hentry).2
  · intro entry hentry other hother
    rcases List.mem_cons.1 hentry with rfl | hold
    · rcases List.mem_append.1 hother with habove | hlast
      · exact h.isName_of_isSome (by rw [hdirectory]; rfl) habove
      · rwa [List.mem_singleton.1 hlast]
    · exact h.names entry (List.mem_of_mem_filter hold) other hother
  · by_cases hplace : above ++ [below] = location ++ [name]
    · obtain ⟨rfl, -⟩ := List.append_inj' hplace rfl
      rw [get?_set_of_ne _ _ hne, hdirectory]
    · rw [get?_set_of_ne _ _ hplace] at hsome
      have habove := h.closed above below hsome
      by_cases hsame : above = location ++ [name]
      · rw [hsame] at habove
        rw [hsame, get?_set_self _ _ (by simp), hnode.resolve_right (not_not_intro habove)]
      · rwa [get?_set_of_ne _ _ hsame]

/-- Removing locations leaves a proper tree if what stands below one of them is removed too. -/
theorem Proper.eraseIf (h : tree.Proper) {condition : Location → Bool}
    (hbelow : ∀ location name, condition location = true →
      condition (location ++ [name]) = true ∨ tree.get? (location ++ [name]) = none) :
    (tree.eraseIf condition).Proper := by
  refine ⟨h.nodup.sublist (List.filter_sublist.map _), fun entry hentry => ?_,
    fun above below hsome => ?_⟩
  · exact h.names entry (List.mem_of_mem_filter hentry)
  · rw [get?_eraseIf, if_neg (by simp)] at hsome
    split at hsome
    next => cases hsome
    next hkept =>
      have habove := h.closed above below hsome
      rw [get?_eraseIf]
      split
      next => rfl
      next =>
        rw [if_neg fun hcondition => ?_, habove]
        rcases hbelow above below hcondition with hgone | hnone
        · exact hkept hgone
        · rw [hnone] at hsome
          cases hsome

/-- Removing a file leaves a proper tree. -/
theorem Proper.erase (h : tree.Proper) (hfile : tree.get? location ≠ some .directory) :
    (tree.erase location).Proper := by
  refine h.eraseIf fun above below habove => .inr ?_
  rw [decide_eq_true_eq] at habove
  rw [← Option.not_isSome_iff_eq_none]
  intro hsome
  exact hfile (habove ▸ h.closed above below hsome)

/-! ## What is changed by a path -/

/-- A part that can be followed in a proper tree leads to a directory, or it is a name. -/
theorem Proper.of_enter (h : tree.Proper) (henter : tree.enter location part = .ok next)
    (hslash : '/' ∉ part.toList) :
    tree.get? next = some .directory ∨ IsName part ∧ next = location ++ [part] := by
  obtain ⟨hdirectory, rfl⟩ := enter_eq_follow henter
  unfold follow
  split
  next => exact .inl hdirectory
  next hsilent =>
    split
    next => exact .inl (h.get?_dropLast hdirectory)
    next hup =>
      simp only [Bool.or_eq_true, decide_eq_true_eq, not_or] at hsilent
      exact .inr ⟨⟨hslash, hsilent.1, hsilent.2, hup⟩, rfl⟩

/-- The parts of a path have no slash. -/
theorem slash_not_mem_of_mem_parts (hpart : part ∈ parts path) : '/' ∉ part.toList := by
  obtain ⟨chars, hchars, rfl⟩ := List.mem_map.1 hpart
  rw [String.toList_ofList]
  exact sep_not_mem_of_mem_splitAt hchars

/-- Where parts can be followed in a proper tree, a directory stands, or a name leads there from
one, or there are no parts. -/
private theorem Proper.of_foldlM_enter (h : tree.Proper) {parts : List String}
    (hslash : ∀ part ∈ parts, '/' ∉ part.toList) (hne : parts ≠ [])
    (hlocate : parts.foldlM tree.enter location = .ok next) :
    tree.get? next = some .directory ∨
      ∃ dir name, IsName name ∧ tree.get? dir = some .directory ∧ next = dir ++ [name] := by
  induction parts generalizing location with
  | nil => exact absurd rfl hne
  | cons part parts ih =>
    rw [List.foldlM_cons] at hlocate
    cases henter : tree.enter location part with
    | error refusal =>
      rw [henter] at hlocate
      cases hlocate
    | ok between =>
      rw [henter] at hlocate
      cases parts with
      | nil =>
        cases hlocate
        rcases h.of_enter henter (hslash part List.mem_cons_self) with hdirectory | ⟨hname, hnext⟩
        · exact .inl hdirectory
        · exact .inr ⟨location, part, hname, (enter_eq_follow henter).1, hnext⟩
      | cons =>
        refine ih (fun other hother => ?_) (List.cons_ne_nil _ _) hlocate
        exact hslash other (List.mem_cons_of_mem part hother)

/-- Where a path can be followed in a proper tree, a directory stands, or a name leads there from
one. -/
theorem Proper.of_locate (h : tree.Proper) (hlocate : tree.locate cwd path = .ok location) :
    tree.get? location = some .directory ∨
      ∃ dir name, IsName name ∧ tree.get? dir = some .directory ∧ location = dir ++ [name] := by
  unfold locate at hlocate
  split at hlocate
  · cases hlocate
  split at hlocate
  · cases hlocate
  refine h.of_foldlM_enter (fun part => slash_not_mem_of_mem_parts) ?_ hlocate
  simpa [parts] using splitAt_ne_nil '/' path.toList

/-- Writing a file leaves a proper tree. -/
theorem Proper.write (h : tree.Proper) {bytes : ByteArray}
    (hwrite : tree.write cwd path bytes = .ok after) : after.Proper := by
  obtain ⟨hlocate, hnot, rfl⟩ := write_eq_ok hwrite
  obtain ⟨dir, name, hname, hdirectory, heq⟩ := (h.of_locate hlocate).resolve_left hnot
  rw [heq] at hnot ⊢
  exact h.set hname hdirectory (.inr hnot)

/-- Making directories along some parts leaves a proper tree. -/
private theorem Proper.makeAlong (h : tree.Proper) {parts : List String}
    (hslash : ∀ part ∈ parts, '/' ∉ part.toList) : (tree.makeAlong location parts).2.Proper := by
  induction parts generalizing tree location with
  | nil => exact h
  | cons part parts ih =>
    have hlater : ∀ other ∈ parts, '/' ∉ other.toList :=
      fun other hother => hslash other (List.mem_cons_of_mem part hother)
    unfold Tree.makeAlong
    split
    next => exact h
    next next' henter =>
      split
      next => exact ih h hlater
      next => exact h
      next hnone =>
        refine ih ?_ hlater
        rcases h.of_enter henter (hslash part List.mem_cons_self) with hdirectory | ⟨hname, hnext⟩
        · rw [hnone] at hdirectory
          cases hdirectory
        · rw [hnext]
          exact h.set hname (enter_eq_follow henter).1 (.inl rfl)

/-- Making a directory and those above it leaves a proper tree. -/
theorem Proper.makeDirectories (h : tree.Proper) (cwd : Location) (path : String) :
    (tree.makeDirectories cwd path).2.Proper := by
  unfold Tree.makeDirectories
  split
  · exact h
  split
  · exact h
  · exact h.makeAlong fun part => slash_not_mem_of_mem_parts

/-- Removing a file leaves a proper tree. -/
theorem Proper.removeFile (h : tree.Proper) (hremove : tree.removeFile cwd path = .ok after) :
    after.Proper := by
  obtain ⟨hsome, rfl⟩ := removeFile_eq_ok hremove
  exact h.erase fun hdirectory => get?_ne_directory hsome hdirectory

/-- Removing a directory leaves a proper tree. -/
theorem Proper.removeDirectory (h : tree.Proper) (cwd : Location) (path : String) :
    (tree.removeDirectory cwd path).2.Proper := by
  unfold Tree.removeDirectory
  split
  next => exact h
  next found _ =>
    split
    next => exact h
    next => exact h
    next =>
      split
      · refine Proper.eraseIf h fun above below habove => .inl ?_
        rw [List.isPrefixOf_iff_prefix] at habove ⊢
        exact habove.trans (List.prefix_append _ _)
      · dsimp only
        refine h.eraseIf fun above below habove => .inl ?_
        rw [Bool.and_eq_true, List.isPrefixOf_iff_prefix, decide_eq_true_eq] at habove ⊢
        refine ⟨habove.1.trans (List.prefix_append _ _), ?_⟩
        rw [List.length_append]
        exact Nat.lt_add_right _ habove.2

end Files.Tree

/-! ## Actions -/

open Files

/-- A workspace in a given working directory, with a tree as file systems have them. -/
structure Workspace.ProperAt (cwd : Location) (workspace : Workspace) : Prop where
  cwd : workspace.cwd = cwd
  proper : workspace.files.Proper

namespace Action

variable {cwd : Location}

/-- Making directories keeps trees proper. -/
theorem keeps_properAt_makeDirectories {ε : Type} (path : String) (error : ε) :
    (makeDirectories path error).Keeps (Workspace.ProperAt cwd) :=
  .makeDirectories fun _ hstart => ⟨hstart.cwd, hstart.proper.makeDirectories _ _⟩

/-- Removing a file if there is one keeps trees proper. -/
theorem keeps_properAt_removeFileIfPresent (path : String) :
    (removeFileIfPresent path).Keeps (Workspace.ProperAt cwd) :=
  .removeFileIfPresent fun _ _ hstart hremove => ⟨hstart.cwd, hstart.proper.removeFile hremove⟩

/-- Removing a directory if there is one keeps trees proper. -/
theorem keeps_properAt_removeDirectoryIfPresent (path : String) :
    (removeDirectoryIfPresent path).Keeps (Workspace.ProperAt cwd) :=
  .removeDirectoryIfPresent fun _ hstart => ⟨hstart.cwd, hstart.proper.removeDirectory _ _⟩

/-- Removing the files with an extension keeps trees proper. -/
theorem keeps_properAt_removeFilesWithExtension (dir extension : String) :
    (removeFilesWithExtension dir extension).Keeps (Workspace.ProperAt cwd) :=
  .removeFilesWithExtension fun _ _ _ _ _ _ _ _ hstart hremove =>
    ⟨hstart.cwd, hstart.proper.removeFile hremove⟩

/-- Writing a text keeps trees proper. -/
theorem keeps_properAt_writeText (path content : String) :
    (writeText path content).Keeps (Workspace.ProperAt cwd) :=
  .writeText (fun _ _ _ hstart => ⟨hstart.cwd, hstart.proper.makeDirectories _ _⟩)
    fun _ _ hstart hwrite => ⟨hstart.cwd, hstart.proper.write hwrite⟩

end Action

end SnippetCheck
