import SnippetCheck.Proofs.Files.Reached

/-!
# What Keeps A Path Reaching

A path that reaches what stands in its place, if that is of some kind (`Tree.ReachesIf`), goes on to
do so when files are removed, when a directory is removed that the path does not lead through, when
directories are made and files are written, unless something of that kind is put in its place by
another path, and after launches that change nothing on the way and in the place. The kinds are all
nodes (`Tree.reaches_iff`) and files (`Tree.reachesFile_iff`).
-/

namespace SnippetCheck

namespace Files.Tree

/-- If a node of some kind stands where a path leads to, the path can be followed. -/
def ReachesIf (kind : Node → Bool) (tree : Tree) (cwd : Location) (path : String) : Prop :=
  (tree.get? (target cwd path)).any kind = true → tree.locate cwd path = .ok (target cwd path)

variable {kind : Node → Bool} {tree other : Tree} {cwd : Location} {path file dir : String}
  {bytes : ByteArray}

/-- A path that reaches whatever stands in its place reaches every kind of node. -/
theorem reaches_iff : tree.Reaches cwd path ↔ tree.ReachesIf (fun _ => true) cwd path := by
  rw [Reaches, ReachesIf]
  cases tree.get? (target cwd path) <;> simp

/-- A path that reaches its file reaches nodes that are files. -/
theorem reachesFile_iff : tree.ReachesFile cwd path ↔ tree.ReachesIf Node.isFile cwd path := by
  have hsame : (tree.fileAt? (target cwd path)).isSome =
      (tree.get? (target cwd path)).any Node.isFile := by
    unfold fileAt?
    cases tree.get? (target cwd path) with
    | none => rfl
    | some node => cases node <;> rfl
  rw [ReachesFile, ReachesIf, hsame]

/-! ## Changes of a tree -/

namespace ReachesIf

/-- A path reaches as before when the directories on its way are kept, and what stands in its place
is as before or gone. -/
private theorem of_kept (h : tree.ReachesIf kind cwd path)
    (hkeeps : ∀ stage ∈ (stages cwd path).dropLast,
      tree.get? stage = some .directory → other.get? stage = some .directory)
    (hplace : other.get? (target cwd path) = tree.get? (target cwd path) ∨
      other.get? (target cwd path) = none) : other.ReachesIf kind cwd path := by
  intro hkind
  rcases hplace with hsame | hnone
  · rw [hsame] at hkind
    exact locate_of_stages hkeeps (h hkind)
  · rw [hnone] at hkind
    cases hkind

/-- A path reaches as before when files are lost. -/
theorem of_losesFiles (h : tree.ReachesIf kind cwd path) (hloses : tree.LosesFiles other) :
    other.ReachesIf kind cwd path :=
  h.of_kept (fun stage _ => hloses.directories stage) (hloses.rest _)

/-- A path reaches as before when a directory is removed that it does not lead through. -/
theorem removeDirectory (h : tree.ReachesIf kind cwd path)
    (hway : ∀ stage ∈ (stages cwd path).dropLast, ¬ target cwd dir <+: stage) :
    (tree.removeDirectory cwd dir).2.ReachesIf kind cwd path := by
  refine h.of_kept (fun stage hstage hdirectory => ?_) ?_
  · rw [get?_removeDirectory (hway stage hstage), hdirectory]
  -- whatever is erased, what stands in the place is as before or gone
  have herase (condition : Location → Bool) :
      (tree.eraseIf condition).get? (target cwd path) = tree.get? (target cwd path) ∨
        (tree.eraseIf condition).get? (target cwd path) = none := by
    rw [get?_eraseIf]
    split
    next hroot =>
      rw [hroot]
      exact .inl rfl
    next =>
      split
      · exact .inr rfl
      · exact .inl rfl
  unfold Tree.removeDirectory
  split
  next => exact .inl rfl
  next =>
    split
    next => exact .inl rfl
    next => exact .inl rfl
    next =>
      split
      · exact herase _
      · exact herase _

/-- A path reaches as before when directories are made, unless one may be made in its place, and is
of the kind that is to be reached. -/
theorem makeDirectories (h : tree.ReachesIf kind cwd path)
    (hplace : target cwd path ∉ stages cwd dir ∨ kind .directory = false) :
    (tree.makeDirectories cwd dir).2.ReachesIf kind cwd path := by
  have hkeeps := tree.keepsDirectories_makeDirectories cwd dir
  by_cases hmem : target cwd path ∈ stages cwd dir
  · have hkind := hplace.resolve_left fun hnot => hnot hmem
    intro hany
    -- what is of the kind is a file, and no files are made
    obtain ⟨node, hget, hnode⟩ := (Option.any_eq_true _ _).1 hany
    cases node with
    | directory =>
      rw [hkind] at hnode
      cases hnode
    | file bytes =>
      refine locate_of_keepsDirectories hkeeps (h ?_)
      rw [← fileAt?_eq_some, fileAt?_makeDirectories, fileAt?_eq_some] at hget
      rwa [hget]
  · exact h.of_kept (fun stage _ => hkeeps stage) (.inl (get?_makeDirectories hmem))

/-- A path reaches a file that has been written by it, and reaches as before when a file is written
elsewhere. -/
theorem write (h : tree.ReachesIf kind cwd path) (hwrite : tree.write cwd file bytes = .ok other)
    (hsame : target cwd path = target cwd file → path = file) : other.ReachesIf kind cwd path := by
  intro hany
  have hkeeps := keepsDirectories_of_write hwrite
  obtain ⟨hlocate, -, rfl⟩ := write_eq_ok hwrite
  by_cases hplace : target cwd path = target cwd file
  · -- the file could only be written because its path can be followed
    obtain rfl := hsame hplace
    exact locate_of_keepsDirectories hkeeps hlocate
  · rw [get?_set_of_ne _ _ hplace] at hany
    exact locate_of_keepsDirectories hkeeps (h hany)

end ReachesIf

end Files.Tree

open Files

/-! ## Actions -/

/-- A workspace whose working directory is given, and where a path reaches what stands in its place
if that is of some kind. -/
structure Workspace.ReachesIf (kind : Node → Bool) (cwd : Location) (path : String)
    (workspace : Workspace) : Prop where
  reaches : workspace.files.ReachesIf kind cwd path
  cwd : workspace.cwd = cwd

variable {kind : Node → Bool} {cwd : Location} {path base name dir : String}

/-- A path reaches as before when files are lost. -/
theorem Workspace.lossy_reachesIf : Lossy (ReachesIf kind cwd path) :=
  fun _ _ h hloses => ⟨h.reaches.of_losesFiles hloses, h.cwd⟩

/-- A path reaches as before after a launch that changes neither what is on its way nor what is in
its place. -/
theorem Workspace.ReachesIf.launch {machine : Machine} {command : Command} {workspace : Workspace}
    {changed : Set Location} (h : workspace.ReachesIf kind cwd path)
    (hleaves : ∀ location ∉ changed,
      (machine.run command cwd workspace.files).2.get? location = workspace.files.get? location)
    (hplaces : ∀ stage ∈ stages cwd path, stage ∉ changed) :
    (workspace.launch machine command).2.ReachesIf kind cwd path := by
  obtain ⟨hreaches, rfl⟩ := h
  have hkept (stage : Location) (hstage : stage ∈ stages workspace.cwd path) :=
    hleaves stage (hplaces stage hstage)
  refine ⟨fun hany => Tree.locate_of_stages (fun stage hstage hdirectory => ?_) (hreaches ?_), rfl⟩
  · exact (hkept stage (List.dropLast_subset _ hstage)).trans hdirectory
  · rwa [← hkept _ (target_mem_stages _ path)]

namespace Action

open Workspace

/-- A path reaches as before when a directory is removed that it does not lead through. -/
theorem keeps_reachesIf_removeDirectoryIfPresent
    (hway : ∀ stage ∈ (stages cwd path).dropLast, ¬ target cwd dir <+: stage) :
    (removeDirectoryIfPresent dir).Keeps (ReachesIf kind cwd path) := by
  refine .removeDirectoryIfPresent ?_
  rintro start ⟨hreaches, rfl⟩
  exact ⟨hreaches.removeDirectory hway, rfl⟩

/-- A path reaches a file that a text is written to by it, and reaches as before when a text is
written elsewhere, unless directories of the kind may be made in its place. -/
theorem keeps_reachesIf_writeText (hname : IsName name) (content : String)
    (hplace : target cwd path ∉ stages cwd base ∨ kind .directory = false)
    (hsame : target cwd path = target cwd (Path.join base name) → path = Path.join base name) :
    (writeText (Path.join base name) content).Keeps (ReachesIf kind cwd path) := by
  refine .writeText_join hname ?_ ?_
  · rintro parent hstages start ⟨hreaches, rfl⟩
    exact ⟨hreaches.makeDirectories (hplace.imp_left (mt (hstages _ _).1)), rfl⟩
  · rintro start files ⟨hreaches, rfl⟩ hwrite
    exact ⟨hreaches.write hwrite hsame, rfl⟩

/-- A path reaches as before when directories are made, unless one may be made in its place, and is
of the kind that is to be reached. -/
theorem keeps_reachesIf_makeDirectories {ε : Type} (error : ε)
    (hplace : target cwd path ∉ stages cwd dir ∨ kind .directory = false) :
    (makeDirectories dir error).Keeps (ReachesIf kind cwd path) := by
  refine .makeDirectories ?_
  rintro start ⟨hreaches, rfl⟩
  exact ⟨hreaches.makeDirectories hplace, rfl⟩

end Action

end SnippetCheck
