import SnippetCheck.Proofs.Files.Clear
import SnippetCheck.Proofs.Files.Proper

/-!
# Territories

A territory says what one of several users of a tree may change (`Territory.Allows`): it makes
missing directories on its ways, and does what it wants in places of its own, except that it leaves
no file where files are barred. What is done in several steps within a territory is done within it
(`Territory.Allows.trans`), and every action on files stays within a territory to which the places
belong that its path names (`Action.keeps_within_writeText` and its companions).
-/

namespace SnippetCheck

namespace Files

/-- What one of several users of a tree may change. -/
structure Territory where
  /-- Where it makes directories that are missing. -/
  ways : Set Location
  /-- Where it changes anything. -/
  own : Set Location
  /-- Where it leaves no file. -/
  barred : Set Location

namespace Territory

variable {territory : Territory} {before between after : Tree} {location : Location}

/-- What may become of what stands at a location. -/
inductive AllowsAt (territory : Territory) (before after : Tree) (location : Location) : Prop
  | same (h : after.get? location = before.get? location)
  | made (hmem : location ∈ territory.ways) (hbefore : before.get? location = none)
      (hafter : after.get? location = some .directory)
  | own (hmem : location ∈ territory.own)
      (hbarred : location ∈ territory.barred → after.fileAt? location = none)

/-- A tree may become another one. -/
def Allows (territory : Territory) (before after : Tree) : Prop :=
  ∀ location, territory.AllowsAt before after location

/-- A tree may stay as it is. -/
theorem Allows.refl (territory : Territory) (tree : Tree) : territory.Allows tree tree :=
  fun _ => .same rfl

/-- What may become of something in two steps may become of it. -/
theorem AllowsAt.trans (h : territory.AllowsAt before between location)
    (h' : territory.AllowsAt between after location) :
    territory.AllowsAt before after location := by
  cases h' with
  | same hsame =>
    cases h with
    | same hsame' => exact .same (hsame.trans hsame')
    | made hmem hbefore hafter => exact .made hmem hbefore (hsame.trans hafter)
    | own hmem hbarred =>
      exact .own hmem fun hbar => (Tree.fileAt?_congr hsame).trans (hbarred hbar)
  | made hmem hbefore hafter =>
    cases h with
    | same hsame' => exact .made hmem (hsame'.symm.trans hbefore) hafter
    | made _ _ hmade =>
      rw [hbefore] at hmade
      cases hmade
    | own hown => exact .own hown fun _ => Tree.fileAt?_of_directory hafter
  | own hmem hbarred => exact .own hmem hbarred

/-- What a tree may become in two steps it may become. -/
theorem Allows.trans (h : territory.Allows before between)
    (h' : territory.Allows between after) : territory.Allows before after :=
  fun location => (h location).trans (h' location)

/-- A larger territory allows more. -/
theorem Allows.mono {larger : Territory} (h : territory.Allows before after)
    (hways : territory.ways ⊆ larger.ways) (hown : territory.own ⊆ larger.own)
    (hbarred : larger.barred ⊆ territory.barred) : larger.Allows before after := by
  intro location
  cases h location with
  | same hsame => exact .same hsame
  | made hmem hbefore hafter => exact .made (hways hmem) hbefore hafter
  | own hmem hbar => exact .own (hown hmem) fun hlarger => hbar (hbarred hlarger)

/-- Files are not put where they are barred. -/
theorem Allows.fileAt?_eq_none (h : territory.Allows before after)
    (hbarred : location ∈ territory.barred) (hnone : before.fileAt? location = none) :
    after.fileAt? location = none := by
  cases h location with
  | same hsame => rw [Tree.fileAt?_congr hsame, hnone]
  | made _ _ hafter => exact Tree.fileAt?_of_directory hafter
  | own _ hbar => exact hbar hbarred

/-- What stands outside the places of the territory stays. -/
theorem Allows.get?_eq_some (h : territory.Allows before after) {node : Node}
    (hown : location ∉ territory.own) (hbefore : before.get? location = some node) :
    after.get? location = some node := by
  cases h location with
  | same hsame => rw [hsame, hbefore]
  | made _ hnone _ =>
    rw [hnone] at hbefore
    cases hbefore
  | own hmem _ => exact absurd hmem hown

/-- Files outside the places of the territory are as they were. -/
theorem Allows.fileAt?_eq (h : territory.Allows before after) (hown : location ∉ territory.own) :
    after.fileAt? location = before.fileAt? location := by
  cases h location with
  | same hsame => exact Tree.fileAt?_congr hsame
  | made _ hbefore hafter => rw [Tree.fileAt?_of_directory hafter, Tree.fileAt?, hbefore]
  | own hmem => exact absurd hmem hown

/-- A change is allowed that only concerns places of the territory where files are not barred. -/
theorem allows_of_same {places : Set Location}
    (hplaces : ∀ location ∈ places, location ∈ territory.own ∧ location ∉ territory.barred)
    (hsame : ∀ location ∉ places, after.get? location = before.get? location) :
    territory.Allows before after := by
  intro location
  by_cases hmem : location ∈ places
  · exact .own (hplaces location hmem).1 fun hbar => absurd hbar (hplaces location hmem).2
  · exact .same (hsame location hmem)

/-- A territory with some of its ways only. -/
def restrict (territory : Territory) (places : Set Location) : Territory :=
  { territory with ways := territory.ways ∩ places }

/-- Some of the ways are enough if nothing is missing on the others. -/
theorem Allows.restrict {places : Set Location} (h : territory.Allows before after)
    (hplaces : ∀ location ∈ territory.ways, location ∉ territory.own →
      before.get? location = none → location ∈ places) :
    (territory.restrict places).Allows before after := by
  intro location
  cases h location with
  | same hsame => exact .same hsame
  | made hmem hnone hafter =>
    by_cases hown : location ∈ territory.own
    · exact .own hown fun _ => Tree.fileAt?_of_directory hafter
    · exact .made ⟨hmem, hplaces location hmem hown hnone⟩ hnone hafter
  | own hmem hbarred => exact .own hmem hbarred

/-! ## Changes by a path -/

/-- Making directories on the ways is allowed. -/
theorem allows_makeDirectories (tree : Tree) (cwd : Location) {path : String}
    (hways : ∀ stage ∈ stages cwd path, stage ∈ territory.ways) :
    territory.Allows tree (tree.makeDirectories cwd path).2 := by
  intro location
  by_cases hstage : location ∈ stages cwd path
  · cases hget : tree.get? location with
    | none =>
      cases hafter : (tree.makeDirectories cwd path).2.get? location with
      | none => exact .same (hafter.trans hget.symm)
      | some node =>
        cases node with
        | directory => exact .made (hways _ hstage) hget hafter
        | file bytes =>
          -- no file is made
          have hfile := tree.fileAt?_makeDirectories cwd path location
          rw [Tree.fileAt?_eq_some.2 hafter, Tree.fileAt?, hget] at hfile
          cases hfile
    | some node =>
      refine .same (Eq.trans ?_ hget.symm)
      cases node with
      | directory => exact tree.keepsDirectories_makeDirectories cwd path location hget
      | file bytes =>
        rw [← Tree.fileAt?_eq_some] at hget ⊢
        rw [tree.fileAt?_makeDirectories, hget]
  · exact .same (Tree.get?_makeDirectories hstage)

/-- Writing a file in a place of its own is allowed where files are not barred. -/
theorem allows_write {tree : Tree} {cwd : Location} {path : String} {bytes : ByteArray}
    (hown : target cwd path ∈ territory.own) (hbarred : target cwd path ∉ territory.barred)
    (h : tree.write cwd path bytes = .ok after) : territory.Allows tree after := by
  obtain ⟨-, -, rfl⟩ := Tree.write_eq_ok h
  intro location
  by_cases hplace : location = target cwd path
  · subst hplace
    exact .own hown fun hbar => absurd hbar hbarred
  · exact .same (Tree.get?_set_of_ne _ _ hplace)

/-- Removing a file from a place of its own is allowed. -/
theorem allows_removeFile {tree : Tree} {cwd : Location} {path : String}
    (hown : target cwd path ∈ territory.own) (h : tree.removeFile cwd path = .ok after) :
    territory.Allows tree after := by
  intro location
  by_cases hplace : location = target cwd path
  · subst hplace
    exact .own hown fun _ => Tree.fileAt?_target_of_removeFile h
  · obtain ⟨-, rfl⟩ := Tree.removeFile_eq_ok h
    refine .same ?_
    by_cases hroot : location = []
    · rw [hroot]
      rfl
    · simp [Tree.erase, Tree.get?_eraseIf, hplace, hroot]

/-- Removing a directory is allowed if it is a place of its own with all that stands below. -/
theorem allows_removeDirectory (tree : Tree) {cwd : Location} {path : String}
    (hown : ∀ location, target cwd path <+: location → location ∈ territory.own) :
    territory.Allows tree (tree.removeDirectory cwd path).2 := by
  intro location
  by_cases hinside : target cwd path <+: location
  · rcases tree.fileAt?_removeDirectory cwd path location with hsame | hnone
    · cases hfile : tree.fileAt? location with
      | none => exact .own (hown location hinside) fun _ => hsame.trans hfile
      | some bytes =>
        rw [hfile] at hsame
        exact .same ((Tree.fileAt?_eq_some.1 hsame).trans (Tree.fileAt?_eq_some.1 hfile).symm)
    · exact .own (hown location hinside) fun _ => hnone
  · exact .same (Tree.get?_removeDirectory hinside)

end Territory

end Files

open Files

/-! ## Actions -/

/-- A workspace that has come from a tree within a territory, in a given working directory. -/
structure Workspace.Within (cwd : Location) (territory : Territory) (origin : Tree)
    (workspace : Workspace) : Prop extends workspace.ProperAt cwd where
  allows : territory.Allows origin workspace.files

variable {cwd : Location} {territory : Territory} {origin : Tree}

/-- Files that a territory allows can take the place of others. -/
theorem Workspace.Within.withFiles {workspace : Workspace} {files : Tree}
    (h : workspace.Within cwd territory origin) (hproper : files.Proper)
    (hallows : territory.Allows workspace.files files) :
    Workspace.Within cwd territory origin { workspace with files } :=
  ⟨⟨h.cwd, hproper⟩, h.allows.trans hallows⟩

namespace Action

/-- Directories that are made on the ways are within the territory. -/
private theorem within_makeDirectories {path : String}
    (hways : ∀ stage ∈ stages cwd path, stage ∈ territory.ways) (start : Workspace)
    (hstart : start.Within cwd territory origin) :
    Workspace.Within cwd territory origin
      { start with files := (start.files.makeDirectories start.cwd path).2 } := by
  refine hstart.withFiles (hstart.proper.makeDirectories _ _) ?_
  rw [hstart.cwd]
  exact Territory.allows_makeDirectories _ _ hways

/-- Making directories on the ways stays within the territory. -/
theorem keeps_within_makeDirectories {ε : Type} {path : String} (error : ε)
    (hways : ∀ stage ∈ stages cwd path, stage ∈ territory.ways) :
    (makeDirectories path error).Keeps (Workspace.Within cwd territory origin) :=
  .makeDirectories (within_makeDirectories hways)

/-- Writing a text to a place of its own stays within the territory. -/
theorem keeps_within_writeText {base name : String} (hname : IsName name) (content : String)
    (hways : ∀ stage ∈ stages cwd base, stage ∈ territory.ways)
    (hown : target cwd (Path.join base name) ∈ territory.own)
    (hbarred : target cwd (Path.join base name) ∉ territory.barred) :
    (writeText (Path.join base name) content).Keeps (Workspace.Within cwd territory origin) := by
  refine .writeText_join hname (fun parent hstages => within_makeDirectories fun stage hstage =>
    hways stage ((hstages cwd stage).1 hstage)) fun start files hstart hwrite => ?_
  refine hstart.withFiles (hstart.proper.write hwrite) ?_
  rw [hstart.cwd] at hwrite
  exact Territory.allows_write hown hbarred hwrite

/-- The removal of a file from a place of its own is within the territory. -/
private theorem within_of_removeFile {path : String} (hown : target cwd path ∈ territory.own)
    {start : Workspace} {files : Tree} (hstart : start.Within cwd territory origin)
    (hremove : start.files.removeFile start.cwd path = .ok files) :
    Workspace.Within cwd territory origin { start with files } := by
  refine hstart.withFiles (hstart.proper.removeFile hremove) ?_
  rw [hstart.cwd] at hremove
  exact Territory.allows_removeFile hown hremove

/-- Removing a file from a place of its own if there is one stays within the territory. -/
theorem keeps_within_removeFileIfPresent {path : String}
    (hown : target cwd path ∈ territory.own) :
    (removeFileIfPresent path).Keeps (Workspace.Within cwd territory origin) :=
  .removeFileIfPresent fun _ _ => within_of_removeFile hown

/-- Removing a directory of its own if there is one stays within the territory. -/
theorem keeps_within_removeDirectoryIfPresent {path : String}
    (hown : ∀ location, target cwd path <+: location → location ∈ territory.own) :
    (removeDirectoryIfPresent path).Keeps (Workspace.Within cwd territory origin) := by
  refine .removeDirectoryIfPresent fun start hstart => ?_
  refine hstart.withFiles (hstart.proper.removeDirectory _ _) ?_
  rw [hstart.cwd]
  exact Territory.allows_removeDirectory _ hown

/-- Removing the files with an extension from a directory stays within the territory, if the places
of such files are its own. -/
theorem keeps_within_removeFilesWithExtension {dir extension : String}
    (hown : ∀ location ∈ Tree.sources cwd dir extension, location ∈ territory.own) :
    (removeFilesWithExtension dir extension).Keeps (Workspace.Within cwd territory origin) := by
  refine .removeFilesWithExtension fun start paths hstart hpaths path hpath _ _ =>
    within_of_removeFile (hown _ ?_)
  -- the files are found in a directory
  have hnode : start.files.node start.cwd dir = .ok .directory := by
    unfold Workspace.filesWithExtension at hpaths
    cases hlocate : start.files.locate start.cwd dir with
    | error refusal =>
      rw [hlocate] at hpaths
      cases hpaths
    | ok location =>
      simp only [hlocate, bind, Except.bind] at hpaths
      split at hpaths
      · cases hpaths
      · cases hpaths
      next hget => simp [Files.Tree.node, hlocate, bind, Except.bind, hget, pure, Except.pure]
  obtain ⟨found, hfound, -, -, hmem⟩ := exists_filesWithExtension extension hstart.proper
    (Tree.reaches_of_node hnode) (Tree.node_eq_ok.1 hnode).2
  rw [hpaths] at hfound
  cases hfound
  rw [← hstart.cwd]
  exact ((hmem _).1 (List.mem_map_of_mem hpath)).1

/-- A launch stays within the territory if what the machine does to a tree is allowed. -/
theorem keeps_within_launch {ε : Type} {machine : Machine} {command : Command}
    (h : ∀ files : Tree, files.Proper → territory.Allows origin files →
      (machine.run command cwd files).2.Proper ∧
        territory.Allows files (machine.run command cwd files).2) :
    (launch machine command : Action ε (Option Finished)).Keeps
      (Workspace.Within cwd territory origin) := by
  refine Keeps.launch fun start hstart => ?_
  obtain ⟨hproper, hallows⟩ := h start.files hstart.proper hstart.allows
  rw [← hstart.cwd] at hproper hallows
  exact ⟨⟨hstart.cwd, hproper⟩, hstart.allows.trans hallows⟩

end Action

end SnippetCheck
