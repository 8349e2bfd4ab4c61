import SnippetCheck.Proofs.Files.Clear
import SnippetCheck.Proofs.Files.Proper
import SnippetCheck.Proofs.Files.Walk

/-!
# What A Path Reaches

A path may lead to a file that it does not reach, if it leads through what is no directory. Such a
file is overlooked by everything that looks for it by its path. Where each file that a removal is
about is reached (`Tree.ReachesFile`), a removal that succeeds has removed them all, and has told of
them (`Action.without_of_removeFilesWithExtension_yields` and its companions). A path reaches its
directory once that has been made (`Tree.locate_of_makeDirectories`).
-/

namespace SnippetCheck

namespace Files.Tree

/-- If a file stands where a path leads to, the path can be followed. -/
def ReachesFile (tree : Tree) (cwd : Location) (path : String) : Prop :=
  (tree.fileAt? (target cwd path)).isSome = true → tree.locate cwd path = .ok (target cwd path)

variable {tree other : Tree} {cwd location : Location} {path : String}

/-- A file that is reached is found by its path. -/
theorem ReachesFile.isFile (h : tree.ReachesFile cwd path)
    (hfile : (tree.fileAt? (target cwd path)).isSome = true) : tree.isFile cwd path = true := by
  obtain ⟨bytes, hbytes⟩ := Option.isSome_iff_exists.1 hfile
  exact isFile_iff.2 ⟨bytes, node_eq_ok.2 ⟨h hfile, fileAt?_eq_some.1 hbytes⟩⟩

/-! ## Names in a directory that is reached -/

/-- A path is a part of every path that joins a name to it. -/
private theorem isUsable_of_join {dir name : String} (hname : IsName name) (hdir : dir ≠ "")
    (h : isUsable (Path.join dir name) = true) : isUsable dir = true := by
  have hempty : dir.toList.isEmpty = false := by simpa using hdir
  obtain ⟨rest, hrest⟩ : ∃ rest, Path.join dir name = dir ++ String.ofList rest := by
    simp only [Path.join, Path.joinChars, hname.isAbsolute, hempty]
    by_cases hslash : dir.toList.getLast? = some '/'
    · exact ⟨name.toList, by simp [hslash]⟩
    · refine ⟨'/' :: name.toList, ?_⟩
      apply String.toList_injective
      simp [hslash]
  rw [hrest] at h
  simp only [isUsable, Bool.and_eq_true, decide_eq_true_eq, String.utf8ByteSize_append,
    String.toList_append, Bool.not_eq_true', List.contains_eq_mem, decide_eq_false_iff_not,
    List.mem_append, not_or] at h ⊢
  exact ⟨by omega, h.2.1⟩

/-- A joined path that can be followed leads through the directory that its name is joined to. -/
theorem node_of_locate_join {dir name : String} (hname : IsName name) (hdir : dir ≠ "")
    (h : tree.locate cwd (Path.join dir name) = .ok location) :
    tree.node cwd dir = .ok .directory := by
  obtain ⟨before, hparts, hbefore⟩ := exists_parts_join hname dir hdir
  unfold locate at h
  split at h
  · cases h
  split at h
  · cases h
  next husable =>
    have husable' := isUsable_of_join hname hdir (by simpa using husable)
    rw [hparts, List.foldlM_append, start_join hname] at h
    cases hfirst : before.foldlM tree.enter (start cwd dir) with
    | error refusal =>
      rw [hfirst] at h
      cases h
    | ok last =>
      rw [hfirst] at h
      have hsingle : [name].foldlM tree.enter last = tree.enter last name := by simp
      have henter : tree.enter last name = .ok location := hsingle.symm.trans h
      obtain ⟨hdirectory, -⟩ := enter_eq_follow henter
      have hfold : (parts dir).foldlM tree.enter (start cwd dir) = .ok last := by
        rcases hbefore with heq | heq
        · rw [heq, hfirst]
        · -- an empty part at the end of the path is no step
          rw [heq, List.foldlM_append, hfirst]
          simp [enter, hdirectory, bind, Except.bind, pure, Except.pure]
      have hlocate : tree.locate cwd dir = .ok last := by
        rw [locate, if_neg hdir, if_neg (by simp [husable']), hfold]
      obtain rfl := target_eq_of_locate hlocate
      exact node_eq_ok.2 ⟨hlocate, hdirectory⟩

/-! ## Losing files -/

/-- A tree becomes another one by losing files: its directories stay, and nothing is put
anywhere. -/
structure LosesFiles (before after : Tree) : Prop where
  directories : before.KeepsDirectories after
  rest : ∀ location, after.get? location = before.get? location ∨ after.get? location = none

/-- Removing a file loses it. -/
theorem losesFiles_of_removeFile (h : tree.removeFile cwd path = .ok other) :
    tree.LosesFiles other where
  directories := keepsDirectories_of_removeFile h
  rest location := by
    obtain ⟨-, rfl⟩ := removeFile_eq_ok h
    rw [erase, get?_eraseIf]
    split
    next hroot =>
      rw [hroot]
      exact .inl rfl
    next =>
      split
      · exact .inr rfl
      · exact .inl rfl

end Files.Tree

open Files Workspace

/-- What holds of a workspace still holds when files are lost. -/
def Workspace.Lossy (holds : Workspace → Prop) : Prop :=
  ∀ workspace files, holds workspace → workspace.files.LosesFiles files →
    holds { workspace with files }

namespace Workspace.Lossy

open Action

variable {holds : Workspace → Prop} (h : Lossy holds)
include h

/-- It is kept when a file is removed that may be there. -/
theorem removeFileIfPresent (path : String) : (Action.removeFileIfPresent path).Keeps holds :=
  .removeFileIfPresent fun start files hstart hremove =>
    h start files hstart (Tree.losesFiles_of_removeFile hremove)

/-- It is kept when the files with an extension are removed. -/
theorem removeFilesWithExtension (dir extension : String) :
    (Action.removeFilesWithExtension dir extension).Keeps holds :=
  .removeFilesWithExtension fun _ _ _ _ _ _ start files hstart hremove =>
    h start files hstart (Tree.losesFiles_of_removeFile hremove)

end Workspace.Lossy

/-! ## Files with an extension -/

namespace Files

/-- Where the files with an extension stand that are directly in a directory. -/
def sites (dir : Location) (extension : String) : Set Location :=
  {location | location.dropLast = dir ∧ extensionAt? location = some extension}

instance (dir : Location) (extension : String) (location : Location) :
    Decidable (location ∈ sites dir extension) :=
  inferInstanceAs (Decidable (_ = _ ∧ _ = _))

/-- Such a place has a name in the directory. -/
theorem exists_eq_append_of_mem_sites {dir location : Location} {extension : String}
    (h : location ∈ sites dir extension) : ∃ name, location = dir ++ [name] := by
  obtain ⟨rfl, hextension⟩ := h
  rcases List.eq_nil_or_concat location with rfl | ⟨above, name, hsplit⟩
  · cases hextension
  · rw [List.concat_eq_append] at hsplit
    exact ⟨name, by rw [hsplit, List.dropLast_concat]⟩

namespace Tree

variable {tree : Tree} {cwd : Location} {dir extension : String}

/-- Every file with an extension that is directly in a directory is reached by its name there. -/
def ReachesFilesIn (tree : Tree) (cwd : Location) (dir extension : String) : Prop :=
  ∀ name, IsName name → target cwd dir ++ [name] ∈ sites (target cwd dir) extension →
    tree.ReachesFile cwd (Path.join dir name)

/-- Every file in a directory is reached if all names in it can be followed. -/
theorem ReachesFilesIn.of_names
    (h : ∀ name ∈ tree.names (target cwd dir), tree.locate cwd (Path.join dir name) =
      .ok (target cwd (Path.join dir name))) (extension : String) :
    tree.ReachesFilesIn cwd dir extension := by
  intro name hname _ hfile
  refine h name (mem_names_iff.2 ?_)
  rw [← target_join hname]
  exact isSome_get?_of_fileAt? hfile

/-- What may be found with an extension in a directory is in one of the places for that. -/
theorem mem_sites_of_mem_sources {location : Location} (h : location ∈ sources cwd dir extension) :
    location ∈ sites (target cwd dir) extension :=
  ⟨dropLast_of_mem_sources h, extensionAt?_of_mem_sources h⟩

/-- A file in such a place is found, and so is the directory, if the file is reached by its name. -/
theorem ReachesFilesIn.mem_sources (h : tree.ReachesFilesIn cwd dir extension)
    (hproper : tree.Proper) (hdir : dir ≠ "") {location : Location}
    (hsite : location ∈ sites (target cwd dir) extension)
    (hfile : (tree.fileAt? location).isSome = true) :
    location ∈ sources cwd dir extension ∧ tree.node cwd dir = .ok .directory := by
  obtain ⟨name, rfl⟩ := exists_eq_append_of_mem_sites hsite
  have hname : IsName name := hproper.isName (mem_names_iff.2 (isSome_get?_of_fileAt? hfile))
  have hlocate : tree.locate cwd (Path.join dir name) = .ok (target cwd (Path.join dir name)) :=
    h name hname hsite (by rwa [target_join hname])
  have hnode := node_of_locate_join hname hdir hlocate
  have hextension := extension?_foldl_join hproper (node_eq_ok.1 hnode).1 hfile
  refine ⟨⟨name, hname, utf8ByteSize_le_of_locate_join hname hlocate, ?_, ?_,
    (target_join hname cwd dir).symm⟩, hnode⟩
  · unfold locate at hlocate
    split at hlocate
    · cases hlocate
    split at hlocate
    · cases hlocate
    next husable => simpa using husable
  · exact hextension.trans hsite.2

end Tree

end Files

/-! ## What a removal has removed -/

namespace Action

variable {start final : Workspace} {path dir extension : String}

/-- Removing the files with an extension that are directly in a directory has removed all of these,
and has told how many there were. -/
theorem without_of_removeFilesWithExtension_yields {count : Nat} (hproper : start.files.Proper)
    (hdir : dir ≠ "") (hreaches : start.files.ReachesFilesIn start.cwd dir extension)
    (h : (removeFilesWithExtension dir extension).Yields start count final) :
    ∃ locations : List Location, locations.length = count ∧ locations.Nodup ∧
      (∀ location, location ∈ locations ↔ location ∈ sites (target start.cwd dir) extension ∧
        (start.files.fileAt? location).isSome = true) ∧
      start.Without {location | location ∈ locations} final := by
  cases hnode : start.files.node start.cwd dir with
  | error refusal =>
    obtain ⟨rfl, rfl⟩ := Yields.unique (exec_removeFilesWithExtension_of_absent hnode) h
    refine ⟨[], rfl, List.nodup_nil, fun location => ?_, rfl, rfl,
      fun location hlost => absurd hlost List.not_mem_nil, fun _ _ => rfl⟩
    constructor
    · intro hmem
      cases hmem
    · -- a file in the directory would have been reached
      rintro ⟨hsite, hfile⟩
      rw [(hreaches.mem_sources hproper hdir hsite hfile).2] at hnode
      cases hnode
  | ok node =>
    cases node with
    | file bytes =>
      rw [Yields, exec_removeFilesWithExtension_of_file hnode] at h
      cases (Prod.mk.inj h).1
    | directory =>
      obtain ⟨paths, end', hremove, hwithout, hnodup, hmem⟩ :=
        removeFilesWithExtension_yields_of_directory extension hproper hnode
      obtain ⟨rfl, rfl⟩ := Yields.unique hremove h
      refine ⟨_, List.length_map _, hnodup, fun location => (hmem location).trans ?_, hwithout⟩
      constructor
      · rintro ⟨hsource, hfile⟩
        exact ⟨Tree.mem_sites_of_mem_sources hsource, hfile⟩
      · rintro ⟨hsite, hfile⟩
        exact ⟨(hreaches.mem_sources hproper hdir hsite hfile).1, hfile⟩

/-- What leads nowhere cannot be followed to a node. -/
theorem exists_node_eq_error (h : start.files.get? (target start.cwd path) = none) :
    ∃ refusal, start.files.node start.cwd path = .error refusal := by
  cases hnode : start.files.node start.cwd path with
  | error refusal => exact ⟨refusal, rfl⟩
  | ok node =>
    rw [(Tree.node_eq_ok.1 hnode).2] at h
    cases h

/-- Removing a directory that is reached has removed what stood in its place and below, and has told
whether anything stood there. -/
theorem without_of_removeDirectoryIfPresent_yields {present : Bool} (hproper : start.files.Proper)
    (hreaches : start.files.Reaches start.cwd path) (hname : (lastName? path).isSome = true)
    (hroot : target start.cwd path ≠ [])
    (h : (removeDirectoryIfPresent path).Yields start present final) :
    present = (start.files.get? (target start.cwd path)).isSome ∧
      start.Without {location | target start.cwd path <+: location} final := by
  cases hget : start.files.get? (target start.cwd path) with
  | none =>
    obtain ⟨refusal, hnode⟩ := exists_node_eq_error hget
    obtain ⟨rfl, rfl⟩ := Yields.unique (exec_removeDirectoryIfPresent_of_absent hnode) h
    exact ⟨rfl, rfl, rfl, fun _ => hproper.get?_eq_none_below hget, fun _ _ => rfl⟩
  | some node =>
    have hnode := Tree.node_eq_ok.2 ⟨hreaches (by rw [hget]; rfl), hget⟩
    cases node with
    | file bytes =>
      rw [Yields, exec_removeDirectoryIfPresent_of_file hnode] at h
      cases (Prod.mk.inj h).1
    | directory =>
      obtain ⟨end', hremove, hwithout⟩ :=
        removeDirectoryIfPresent_yields_of_directory hnode hname hroot
      obtain ⟨rfl, rfl⟩ := Yields.unique hremove h
      exact ⟨rfl, hwithout⟩

/-- Removing a file that is reached has removed it, and has told whether it was there. -/
theorem without_of_removeFileIfPresent_yields {present : Bool}
    (hreaches : start.files.ReachesFile start.cwd path)
    (h : (removeFileIfPresent path).Yields start present final) :
    present = (start.files.fileAt? (target start.cwd path)).isSome ∧
      start.Without {location | location = target start.cwd path ∧
        (start.files.fileAt? location).isSome = true} final := by
  obtain ⟨present', end', hremove, hwithout⟩ := removeFileIfPresent_yields hreaches
  obtain ⟨rfl, rfl⟩ := Yields.unique hremove h
  refine ⟨?_, hwithout⟩
  cases hfile : (start.files.fileAt? (target start.cwd path)).isSome with
  | true =>
    obtain ⟨end', htrue, -⟩ := removeFileIfPresent_yields_of_isFile (hreaches.isFile hfile)
    exact (Yields.unique htrue h).1
  | false =>
    refine (Yields.unique (removeFileIfPresent_yields_of_not_isFile fun hisFile => ?_) h).1
    obtain ⟨bytes, hnode⟩ := Tree.isFile_iff.1 hisFile
    rw [Tree.fileAt?_eq_some.2 (Tree.node_eq_ok.1 hnode).2] at hfile
    cases hfile

/-- Removing files with an extension and then a directory without one has removed both. -/
theorem without_of_removes_yield {between : Workspace} {count : Nat} {present : Bool}
    (hproper : start.files.Proper) (hdir : dir ≠ "")
    (hfiles : start.files.ReachesFilesIn start.cwd dir extension)
    (hreaches : start.files.Reaches start.cwd path) (hname : (lastName? path).isSome = true)
    (hroot : target start.cwd path ≠ []) (hextension : extensionAt? (target start.cwd path) = none)
    (hfirst : (removeFilesWithExtension dir extension).Yields start count between)
    (hsecond : (removeDirectoryIfPresent path).Yields between present final) :
    ∃ locations : List Location, locations.length = count ∧ locations.Nodup ∧
      (∀ location, location ∈ locations ↔ location ∈ sites (target start.cwd dir) extension ∧
        (start.files.fileAt? location).isSome = true) ∧
      present = (start.files.get? (target start.cwd path)).isSome ∧
      start.Without ({location | location ∈ locations} ∪
        {location | target start.cwd path <+: location}) final := by
  obtain ⟨locations, hlength, hnodup, hmem, hwithout⟩ :=
    without_of_removeFilesWithExtension_yields hproper hdir hfiles hfirst
  have hbetween := (keeps_properAt_removeFilesWithExtension dir extension).of_yields hfirst
    ⟨rfl, hproper⟩
  -- only files are lost at first, and the directory is none of them
  have hkept : between.files.get? (target start.cwd path) =
      start.files.get? (target start.cwd path) := by
    refine hwithout.kept _ fun hlost => ?_
    have hsite := ((hmem _).1 hlost).1.2
    rw [hextension] at hsite
    cases hsite
  have hdirectories := hwithout.keepsDirectories fun location hlost =>
    Tree.get?_ne_directory ((hmem location).1 hlost).2
  have hreaches' : between.files.Reaches between.cwd path := by
    rw [hwithout.cwd]
    intro hsome
    rw [hkept] at hsome
    exact Tree.locate_of_keepsDirectories hdirectories (hreaches hsome)
  obtain ⟨hpresent, hwithout'⟩ := without_of_removeDirectoryIfPresent_yields hbetween.proper
    hreaches' hname (by rwa [hwithout.cwd]) hsecond
  rw [hwithout.cwd, hkept] at hpresent
  rw [hwithout.cwd] at hwithout'
  exact ⟨locations, hlength, hnodup, hmem, hpresent, hwithout.trans hwithout'⟩

/-- Where there is no file with an extension, none is removed. -/
theorem removeFilesWithExtension_yields_zero (hproper : start.files.Proper)
    (hnode : ∀ bytes, start.files.node start.cwd dir ≠ .ok (.file bytes))
    (hnone : ∀ location ∈ sites (target start.cwd dir) extension,
      start.files.fileAt? location = none) :
    (removeFilesWithExtension dir extension).Yields start 0 start := by
  cases hfound : start.files.node start.cwd dir with
  | error refusal => exact exec_removeFilesWithExtension_of_absent hfound
  | ok node =>
    cases node with
    | file bytes => exact absurd hfound (hnode bytes)
    | directory =>
      obtain ⟨paths, hpaths, -, -, hmem⟩ := exists_filesWithExtension extension hproper
        (Tree.reaches_of_node hfound) (Tree.node_eq_ok.1 hfound).2
      obtain rfl : paths = [] := by
        refine List.eq_nil_iff_forall_not_mem.2 fun path hpath => ?_
        obtain ⟨hsource, hfile⟩ := (hmem _).1 (List.mem_map_of_mem hpath)
        rw [hnone _ (Tree.mem_sites_of_mem_sources hsource)] at hfile
        cases hfile
      have hpresent : start.isPresent dir = true := by
        simp [Workspace.isPresent, Tree.isPresent, Tree.isDirectory, hfound]
      unfold removeFilesWithExtension
      rw [yields_get_bind, if_pos hpresent, hpaths]
      exact yields_pure.2 ⟨rfl, rfl⟩

end Action

/-! ## Making directories -/

/-- What is not on the way to a file stays when the file is written. -/
theorem Action.keeps_writeText_get? {cwd place : Location} {base name : String}
    (hname : IsName name) (content : String) (hplace : place ∉ stages cwd (Path.join base name))
    {found : Option Node} :
    (writeText (Path.join base name) content).Keeps fun workspace =>
      workspace.cwd = cwd ∧ workspace.files.get? place = found := by
  obtain ⟨hway, hne⟩ := not_or.1 (mt (mem_stages_join hname base).2 hplace)
  refine .writeText_join hname ?_ ?_
  · rintro parent hstages start ⟨rfl, hfound⟩
    exact ⟨rfl, (Tree.get?_makeDirectories (mt (hstages _ _).1 hway)).trans hfound⟩
  · rintro start files ⟨rfl, hfound⟩ hwrite
    obtain ⟨-, -, rfl⟩ := Tree.write_eq_ok hwrite
    exact ⟨rfl, (Tree.get?_set_of_ne _ _ hne).trans hfound⟩

namespace Files.Tree

variable {tree : Tree} {cwd location : Location} {path : String}

/-- The directories that were made along some parts can be followed. -/
private theorem foldlM_enter_makeAlong {parts : List String}
    (h : (tree.makeAlong location parts).1 = .ok ()) :
    parts.foldlM (tree.makeAlong location parts).2.enter location =
      .ok (parts.foldl follow location) := by
  induction parts generalizing tree location with
  | nil => rfl
  | cons part parts ih =>
    have hkeeps := (makeAlong_keeps tree location (part :: parts)).1
    rcases makeAlong_cons_cases tree location part parts with
      ⟨refusal, hmade⟩ | ⟨henter, -, hmade⟩
    · rw [hmade] at h
      cases h
    · rw [hmade] at h hkeeps ⊢
      have hdirectory := (enter_eq_follow henter).1
      have hsame : ((tree.withDirectory (follow location part)).makeAlong (follow location part)
          parts).2.enter location part = .ok (follow location part) := by
        rw [← henter, enter, enter, hkeeps _ hdirectory, hdirectory]
      rw [List.foldlM_cons, hsame]
      exact ih h

/-- Where directories along some parts could not all be made, the last one was not. -/
private theorem get?_makeAlong_of_error {parts : List String}
    (h : (tree.makeAlong location parts).1 ≠ .ok ())
    (hway : parts.foldl follow location ∉ (parts.scanl follow location).dropLast) :
    (tree.makeAlong location parts).2.get? (parts.foldl follow location) =
      tree.get? (parts.foldl follow location) := by
  induction parts generalizing tree location with
  | nil => exact absurd rfl h
  | cons part parts ih =>
    rcases makeAlong_cons_cases tree location part parts with ⟨refusal, hmade⟩ | ⟨-, -, hmade⟩
    · rw [hmade]
    · rw [hmade] at h ⊢
      rw [List.scanl_cons, List.dropLast_cons_of_ne_nil (by cases parts <;> simp), List.mem_cons,
        not_or, List.foldl_cons] at hway
      rw [List.foldl_cons, ih h hway.2]
      refine get?_withDirectory_of_ne ?_
      -- more parts follow, or nothing would have failed
      cases parts with
      | nil => exact absurd rfl h
      | cons second rest =>
        rintro heq
        refine hway.2 ?_
        rw [heq, List.scanl_cons, List.dropLast_cons_of_ne_nil (by cases rest <;> simp)]
        exact List.mem_cons_self

/-- A path reaches its directory once that has been made. -/
theorem locate_of_makeDirectories (hpath : path ≠ "")
    (h : (tree.makeDirectories cwd path).1 = .ok ()) :
    (tree.makeDirectories cwd path).2.locate cwd path = .ok (target cwd path) := by
  unfold makeDirectories at h ⊢
  rw [if_neg hpath] at h ⊢
  split at h
  · cases h
  next husable =>
    rw [if_neg husable, locate, if_neg hpath, if_neg husable]
    exact foldlM_enter_makeAlong h

/-- A path still reaches its directory when that was to be made and could not be, unless the path
leads there on its way already. -/
theorem Reaches.makeDirectories (h : tree.Reaches cwd path)
    (hway : target cwd path ∉ (stages cwd path).dropLast) :
    (tree.makeDirectories cwd path).2.Reaches cwd path := by
  intro hsome
  by_cases hpath : path = ""
  · rw [Tree.makeDirectories, if_pos hpath] at hsome ⊢
    exact h hsome
  by_cases hok : (tree.makeDirectories cwd path).1 = .ok ()
  · exact locate_of_makeDirectories hpath hok
  · refine locate_of_keepsDirectories (tree.keepsDirectories_makeDirectories cwd path) (h ?_)
    have hsame : (tree.makeDirectories cwd path).2.get? (target cwd path) =
        tree.get? (target cwd path) := by
      unfold Tree.makeDirectories at hok ⊢
      rw [if_neg hpath] at hok ⊢
      split
      · rfl
      next husable =>
        rw [if_neg husable] at hok
        exact get?_makeAlong_of_error hok hway
    rwa [hsame] at hsome

end Files.Tree

end SnippetCheck
