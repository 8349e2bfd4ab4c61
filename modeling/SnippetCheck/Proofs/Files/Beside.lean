import SnippetCheck.Proofs.Files.Territory
import SnippetCheck.Proofs.Tandem

/-!
# Working Beside Others

Two workspaces stand beside each other (`Workspace.Beside`) when the second has become what the
first would be with what somebody else has done within a territory. A path that the territory spares
(`Territory.Spares`) does not show that: it leads to the same in both trees, or it leads to nothing
in the one and to a directory on the ways of the territory in the other (`Spares.node_eq_or`). So
what is done with such paths goes in tandem, with the same results, and the workspaces stand beside
each other afterwards, also when it fails.
-/

namespace SnippetCheck

open Files

namespace Files

variable {territory : Territory} {before after tree other : Tree} {cwd location : Location}
  {path : String}

/-- A territory spares a path: the path leads through no place of the territory, and where it comes
to one of the ways, it does not lead up any more, and its names are not too long. -/
structure Territory.Spares (territory : Territory) (cwd : Location) (path : String) : Prop where
  own : ∀ stage ∈ stages cwd path, stage ∉ territory.own
  ways : ∀ first rest, parts path = first ++ rest →
    first.foldl follow (start cwd path) ∈ territory.ways →
      ∀ part ∈ rest, part ≠ ".." ∧ part.utf8ByteSize ≤ 255

namespace Territory

/-! ## Following a path that is spared -/

/-- What stands where some parts lead to. -/
private def nodeAlong (tree : Tree) (location : Location) (parts : List String) :
    Except Refusal Node := do
  match tree.get? (← parts.foldlM tree.enter location) with
  | some node => return node
  | none => throw .notFound

/-- No parts lead to where they start. -/
private theorem nodeAlong_nil (tree : Tree) (location : Location) :
    nodeAlong tree location [] =
      match tree.get? location with
      | some node => .ok node
      | none => .error .notFound := rfl

/-- Parts lead on from where the first of them leads. -/
private theorem nodeAlong_cons (tree : Tree) (location : Location) (part : String)
    (parts : List String) :
    nodeAlong tree location (part :: parts) =
      match tree.enter location part with
      | .ok next => nodeAlong tree next parts
      | .error refusal => .error refusal := by
  unfold nodeAlong
  rw [List.foldlM_cons]
  cases tree.enter location part <;> rfl

/-- From where nothing has stood, parts lead to nothing, or along directories on the ways of the
territory. -/
private theorem nodeAlong_of_absent {parts : List String} (h : territory.Allows before after)
    (hbelow : ∀ stage, location <+: stage → before.get? stage = none)
    (hown : ∀ stage ∈ parts.scanl follow location, stage ∉ territory.own)
    (hparts : ∀ part ∈ parts, part ≠ ".." ∧ part.utf8ByteSize ≤ 255) :
    nodeAlong after location parts = .error .notFound ∨
      parts.foldl follow location ∈ territory.ways ∧
        before.get? (parts.foldl follow location) = none ∧
        nodeAlong after location parts = .ok .directory := by
  have hnone := hbelow location List.prefix_rfl
  induction parts generalizing location with
  | nil =>
    rw [nodeAlong_nil]
    cases h location with
    | same hsame => exact .inl (by rw [hsame, hnone])
    | made hmem _ hafter => exact .inr ⟨hmem, hnone, by rw [hafter]⟩
    | own hmem _ => exact absurd hmem (hown location (by simp))
  | cons part parts ih =>
    rw [nodeAlong_cons]
    rw [List.scanl_cons] at hown
    cases h location with
    | same hsame =>
      refine .inl ?_
      rw [Tree.enter, hsame, hnone]
    | made _ _ hafter =>
      obtain ⟨hup, hshort⟩ := hparts part List.mem_cons_self
      have hnext : location <+: follow location part := by
        unfold follow
        split
        · exact List.prefix_rfl
        · exact List.prefix_append _ _
      rw [Tree.enter_of_short hshort hafter, List.foldl_cons]
      refine ih (fun stage hstage => hbelow stage (hnext.trans hstage))
        (fun stage hstage => hown stage (List.mem_cons_of_mem _ hstage))
        (fun other hother => hparts other (List.mem_cons_of_mem part hother))
        (hbelow _ hnext)
    | own hmem _ => exact absurd hmem (hown location List.mem_cons_self)

/-- From where nothing stands, parts lead to nothing. -/
private theorem nodeAlong_of_none {parts : List String} (h : tree.get? location = none) :
    nodeAlong tree location parts = .error .notFound := by
  cases parts with
  | nil => rw [nodeAlong_nil, h]
  | cons part parts => rw [nodeAlong_cons, Tree.enter, h]

/-- Parts that a territory spares lead to the same, or to nothing and to a directory on its ways. -/
private theorem nodeAlong_eq_or {parts : List String} (h : territory.Allows before after)
    (hproper : before.Proper)
    (hown : ∀ stage ∈ parts.scanl follow location, stage ∉ territory.own)
    (hways : ∀ first rest, parts = first ++ rest → first.foldl follow location ∈ territory.ways →
      ∀ part ∈ rest, part ≠ ".." ∧ part.utf8ByteSize ≤ 255) :
    nodeAlong after location parts = nodeAlong before location parts ∨
      parts.foldl follow location ∈ territory.ways ∧
        before.get? (parts.foldl follow location) = none ∧
        nodeAlong before location parts = .error .notFound ∧
        nodeAlong after location parts = .ok .directory := by
  induction parts generalizing location with
  | nil =>
    rw [nodeAlong_nil, nodeAlong_nil]
    cases h location with
    | same hsame => exact .inl (by rw [hsame])
    | made hmem hnone hafter => exact .inr ⟨hmem, hnone, by rw [hnone], by rw [hafter]⟩
    | own hmem _ => exact absurd hmem (hown location (by simp))
  | cons part parts ih =>
    cases h location with
    | same hsame =>
      have hfirst : after.enter location part = before.enter location part := by
        rw [Tree.enter, Tree.enter, hsame]
      rw [nodeAlong_cons, nodeAlong_cons, hfirst]
      cases henter : before.enter location part with
      | error refusal => exact .inl rfl
      | ok next =>
        obtain ⟨-, rfl⟩ := Tree.enter_eq_follow henter
        rw [List.scanl_cons] at hown
        exact ih (fun stage hstage => hown stage (List.mem_cons_of_mem _ hstage))
          fun first rest heq hmem => hways (part :: first) rest (by rw [heq]; rfl) hmem
    | made hmem hnone hafter =>
      -- nothing has stood below what has been made
      rw [nodeAlong_of_none hnone]
      rcases nodeAlong_of_absent h (fun stage => hproper.get?_eq_none_below hnone) hown
        (hways [] (part :: parts) rfl hmem) with hmissing | ⟨hend, habsent, hfound⟩
      · exact .inl hmissing
      · exact .inr ⟨hend, habsent, rfl, hfound⟩
    | own hmem _ => exact absurd hmem (hown location (by simp))

/-- A path is followed along its parts, if it can be followed at all. -/
private theorem node_eq (tree : Tree) (cwd : Location) (path : String) :
    tree.node cwd path =
      if path = "" then .error .notFound
      else if !isUsable path then .error .unusable
      else nodeAlong tree (start cwd path) (parts path) := by
  unfold Tree.node Tree.locate nodeAlong
  split
  · rfl
  split
  · rfl
  · rfl

namespace Spares

variable (h : territory.Spares cwd path) (hallows : territory.Allows before after)
  (hproper : before.Proper)
include h hallows hproper

/-- A spared path leads to the same, or to nothing and to a directory on the ways. -/
theorem node_eq_or :
    after.node cwd path = before.node cwd path ∨
      target cwd path ∈ territory.ways ∧ before.get? (target cwd path) = none ∧
        before.node cwd path = .error .notFound ∧ after.node cwd path = .ok .directory := by
  rw [node_eq, node_eq]
  split
  · exact .inl rfl
  split
  · exact .inl rfl
  · exact nodeAlong_eq_or hallows hproper h.own h.ways

/-- A path that a territory spares leads to the same unless its end is on the ways. -/
theorem node_eq (htarget : target cwd path ∉ territory.ways) :
    after.node cwd path = before.node cwd path :=
  (h.node_eq_or hallows hproper).resolve_right fun hways => htarget hways.1

/-- A path that a territory spares leads to a file in both trees or in neither. -/
theorem isFile_eq : after.isFile cwd path = before.isFile cwd path := by
  unfold Tree.isFile
  rcases h.node_eq_or hallows hproper with hsame | ⟨-, -, hmissing, hmade⟩
  · rw [hsame]
  · rw [hmissing, hmade]

/-- A path that a territory spares leads to something in both trees or in neither, unless its end is
on the ways. -/
theorem isPresent_eq (htarget : target cwd path ∉ territory.ways) :
    after.isPresent cwd path = before.isPresent cwd path := by
  unfold Tree.isPresent Tree.isFile Tree.isDirectory
  rw [h.node_eq hallows hproper htarget]

/-- A path that a territory spares is read alike unless its end is on the ways. -/
theorem readText_eq (htarget : target cwd path ∉ territory.ways) :
    after.readText cwd path = before.readText cwd path := by
  rw [Tree.readText, Tree.readText, Tree.readBytes, Tree.readBytes,
    h.node_eq hallows hproper htarget]

end Spares

/-- Less is spared by a larger territory. -/
theorem Spares.mono {larger : Territory} (h : larger.Spares cwd path)
    (hways : territory.ways ⊆ larger.ways) (hown : territory.own ⊆ larger.own) :
    territory.Spares cwd path where
  own stage hstage hmem := h.own stage hstage (hown hmem)
  ways first rest heq hmem := h.ways first rest heq (hways hmem)

/-- A territory without some of its places. -/
def excluding (territory : Territory) (places : Set Location) : Territory :=
  { territory with own := territory.own \ places }

/-- Less is spared by a territory with more places. -/
theorem Spares.excluding (h : territory.Spares cwd path) (places : Set Location) :
    (territory.excluding places).Spares cwd path :=
  h.mono subset_rfl fun _ hmem => hmem.1

/-- A path with plain parts is spared if no place of the territory is on its way. -/
theorem Spares.of_parts (hown : ∀ stage ∈ stages cwd path, stage ∉ territory.own)
    (hparts : ∀ part ∈ parts path, part ≠ ".." ∧ part.utf8ByteSize ≤ 255) :
    territory.Spares cwd path where
  own := hown
  ways first rest heq _ part hpart := hparts part (by rw [heq]; exact List.mem_append_right _ hpart)

/-- A name that is joined to a path that is spared is spared too, if it is not too long and no place
of the territory is where it leads to. -/
theorem Spares.join (h : territory.Spares cwd path) {name : String} (hname : IsName name)
    (hshort : name.utf8ByteSize ≤ 255)
    (hown : target cwd (Path.join path name) ∉ territory.own) :
    territory.Spares cwd (Path.join path name) where
  own stage hstage := by
    rcases (mem_stages_join hname path).1 hstage with hmem | hend
    · exact h.own stage hmem
    · rw [hend]
      exact hown
  ways first rest heq hmem part hpart := by
    obtain ⟨before, silent, hjoined, hparts⟩ := exists_parts_join_eq_append hname path
    rw [hjoined] at heq
    rw [start_join hname] at hmem
    -- what comes after the way is the name, or the end of the path before it and the name
    rcases List.append_eq_append_iff.1 heq with ⟨between, -, hrest⟩ | ⟨between, hfirst, hrest⟩
    · have hlast : part ∈ [name] := hrest ▸ List.mem_append_right between hpart
      rw [List.mem_singleton.1 hlast]
      exact ⟨hname.ne_up, hshort⟩
    · rw [hrest] at hpart
      rcases List.mem_append.1 hpart with hbetween | hlast
      · refine h.ways first (between ++ silent) ?_ hmem part (List.mem_append_left _ hbetween)
        rw [hparts, hfirst, List.append_assoc]
      · rw [List.mem_singleton.1 hlast]
        exact ⟨hname.ne_up, hshort⟩

/-- A territory is clear of a path: the path is spared, and where it leads to, nothing at or below
belongs to the territory or to its ways. -/
structure Clears (territory : Territory) (cwd : Location) (path : String) : Prop
    extends territory.Spares cwd path where
  own_below : ∀ location, target cwd path <+: location → location ∉ territory.own
  ways_below : ∀ location, target cwd path <+: location → location ∉ territory.ways

/-! ## The same changes in both trees -/

/-- What is allowed at a location is about what stands there only. -/
theorem AllowsAt.congr {before' after' : Tree} (h : territory.AllowsAt before after location)
    (hbefore : before'.get? location = before.get? location)
    (hafter : after'.get? location = after.get? location) :
    territory.AllowsAt before' after' location := by
  cases h with
  | same hsame => exact .same (by rw [hafter, hsame, hbefore])
  | made hmem hnone hmade => exact .made hmem (hbefore.trans hnone) (hafter.trans hmade)
  | own hmem hbar =>
    exact .own hmem fun hbarred => (Tree.fileAt?_congr hafter).trans (hbar hbarred)

/-- The same in the same place leaves the one tree beside the other. -/
theorem Allows.set (h : territory.Allows before after) (location : Location) (node : Node) :
    territory.Allows (before.set location node) (after.set location node) := by
  intro stage
  by_cases hstage : stage = location
  · subst hstage
    refine .same ?_
    by_cases hroot : stage = []
    · rw [hroot]
      rfl
    · rw [Tree.get?_set_self _ _ hroot, Tree.get?_set_self _ _ hroot]
  · exact (h stage).congr (Tree.get?_set_of_ne _ _ hstage) (Tree.get?_set_of_ne _ _ hstage)

/-- A directory in the same place, where no file stands, leaves the one tree beside the other. -/
theorem Allows.withDirectory (h : territory.Allows before after)
    (hbefore : before.fileAt? location = none) (hafter : after.fileAt? location = none) :
    territory.Allows (before.withDirectory location) (after.withDirectory location) := by
  intro stage
  by_cases hstage : stage = location
  · subst hstage
    refine .same ?_
    rw [Tree.get?_withDirectory_self hbefore, Tree.get?_withDirectory_self hafter]
  · exact (h stage).congr (Tree.get?_withDirectory_of_ne hstage)
      (Tree.get?_withDirectory_of_ne hstage)

/-- What both trees lose leaves the one beside the other. -/
theorem Allows.without {start other final final' : Workspace} {lost : Set Location}
    (h : territory.Allows start.files other.files) (hfinal : start.Without lost final)
    (hfinal' : other.Without lost final') : territory.Allows final.files final'.files := by
  intro stage
  by_cases hlost : stage ∈ lost
  · exact .same (by rw [hfinal.gone stage hlost, hfinal'.gone stage hlost])
  · exact (h stage).congr (hfinal.kept stage hlost) (hfinal'.kept stage hlost)

/-- Outside the places of a territory and its ways, the same stands in both trees. -/
theorem Allows.get?_eq (h : territory.Allows before after) (hown : location ∉ territory.own)
    (hways : location ∉ territory.ways) : after.get? location = before.get? location := by
  cases h location with
  | same hsame => exact hsame
  | made hmem _ _ => exact absurd hmem hways
  | own hmem _ => exact absurd hmem hown

/-- Where a path leads to of which the territory is clear, the same stands, and so it does below. -/
theorem Clears.same (hclears : territory.Clears cwd path) (h : territory.Allows before after)
    (hproper : before.Proper) :
    after.node cwd path = before.node cwd path ∧
      ∀ location, target cwd path <+: location → after.get? location = before.get? location :=
  ⟨hclears.node_eq h hproper (hclears.ways_below _ List.prefix_rfl), fun location hbelow =>
    h.get?_eq (hclears.own_below location hbelow) (hclears.ways_below location hbelow)⟩

/-- A directory and those above it are made in both trees or in neither. Once they are, they are
there in both. -/
theorem Allows.makeDirectories (h : territory.Allows before after)
    (hstart : start cwd path ∉ territory.ways)
    (hown : ∀ stage ∈ stages cwd path, stage ∉ territory.own) :
    (after.makeDirectories cwd path).1 = (before.makeDirectories cwd path).1 ∧
      territory.Allows (before.makeDirectories cwd path).2 (after.makeDirectories cwd path).2 ∧
      ((before.makeDirectories cwd path).1 = .ok () → ∀ stage ∈ stages cwd path,
        (after.makeDirectories cwd path).2.get? stage =
          (before.makeDirectories cwd path).2.get? stage) := by
  have hsame := h.get?_eq (hown _ (start_mem_stages cwd path)) hstart
  exact Tree.makeDirectories_related (fun _ _ _ h => h.withDirectory) h hsame
    fun tree other h stage hstage => h.fileAt?_eq (hown stage hstage)

end Territory

end Files

/-! ## Actions -/

/-- A workspace stands beside another one: both have proper trees and one working directory, and the
first would be the second if somebody had done something within the territory. -/
structure Workspace.Beside (cwd : Location) (territory : Territory) (workspace other : Workspace) :
    Prop where
  first : workspace.ProperAt cwd
  second : other.ProperAt cwd
  allows : territory.Allows workspace.files other.files

/-- A text is read alike beside others, if its path is spared and not on the ways. -/
theorem Workspace.Beside.readText_eq {cwd : Location} {territory : Territory}
    {workspace other : Workspace} {path : String} (h : workspace.Beside cwd territory other)
    (hspares : territory.Spares cwd path) (htarget : target cwd path ∉ territory.ways) :
    other.readText path = workspace.readText path := by
  rw [Workspace.readText, Workspace.readText, h.first.cwd, h.second.cwd]
  exact hspares.readText_eq h.allows h.first.proper htarget

/-- An action goes beside what is done within a territory: it ends with the same result from
workspaces that stand beside each other, and leaves such workspaces. -/
abbrev Action.GoesBeside {ε α : Type} (action : Action ε α) (cwd : Location)
    (territory : Territory) : Prop :=
  action.Tandem (Workspace.Beside cwd territory) Eq (Workspace.Beside cwd territory)
    (Workspace.Beside cwd territory)

/-- A command that ends the same in both trees leaves workspaces beside each other that stood so, if
what it does to the trees is allowed. -/
theorem Workspace.Beside.launch {cwd : Location} {territory later : Territory}
    {workspace other : Workspace} {machine : Machine} {command : Command}
    (h : workspace.Beside cwd territory other)
    (hproper : ∀ files : Tree, files.Proper → (machine.run command cwd files).2.Proper)
    (hfinished : (machine.run command cwd other.files).1 =
      (machine.run command cwd workspace.files).1)
    (hallows : later.Allows (machine.run command cwd workspace.files).2
      (machine.run command cwd other.files).2) :
    (other.launch machine command).1 = (workspace.launch machine command).1 ∧
      (workspace.launch machine command).2.Beside cwd later (other.launch machine command).2 := by
  obtain ⟨⟨rfl, hfirst⟩, ⟨hcwd, hsecond⟩, -⟩ := h
  unfold Workspace.launch
  rw [hcwd]
  exact ⟨hfinished, ⟨rfl, hproper _ hfirst⟩, ⟨rfl, hproper _ hsecond⟩, hallows⟩

namespace Action

open Workspace

variable {ε α : Type} {cwd : Location} {territory : Territory}

/-- What keeps trees proper goes beside others if it ends the same and leaves the one tree beside
the other. -/
theorem GoesBeside.of_keeps {action : Action ε α} (hkeeps : action.Keeps (ProperAt cwd))
    (h : ∀ start other, start.Beside cwd territory other →
      (action.exec other).1 = (action.exec start).1 ∧
        territory.Allows (action.exec start).2.files (action.exec other).2.files) :
    action.GoesBeside cwd territory := by
  intro start other hbeside
  obtain ⟨hresult, hallows⟩ := h start other hbeside
  have hfinal := hkeeps start hbeside.first
  have hfinal' := hkeeps other hbeside.second
  rcases hexec : action.exec start with ⟨result, final⟩
  rcases hexec' : action.exec other with ⟨result', final'⟩
  rw [hexec, hexec'] at hresult hallows
  rw [hexec] at hfinal
  rw [hexec'] at hfinal'
  obtain rfl : result' = result := hresult
  cases result' with
  | error error => exact .error ⟨hfinal, hfinal', hallows⟩
  | ok value => exact .ok rfl ⟨hfinal, hfinal', hallows⟩

/-- Directories are made beside others. Once they are made, the same stands on the way to them. -/
private theorem tandem_makeDirectories_beside {path : String} (error : ε)
    (hstart : start cwd path ∉ territory.ways)
    (hown : ∀ stage ∈ stages cwd path, stage ∉ territory.own) :
    (makeDirectories path error).Tandem (Beside cwd territory) Eq
      (fun workspace other => workspace.Beside cwd territory other ∧
        ∀ stage ∈ stages cwd path, other.files.get? stage = workspace.files.get? stage)
      (Beside cwd territory) := by
  intro workspace other h
  obtain ⟨hresult, hallows, hmade⟩ := h.allows.makeDirectories hstart hown
  rw [makeDirectories, exec_changeFiles, exec_changeFiles, h.first.cwd, h.second.cwd, hresult]
  have hbeside : Beside cwd territory
      { workspace with files := (workspace.files.makeDirectories cwd path).2, cwd := cwd }
      { other with files := (other.files.makeDirectories cwd path).2, cwd := cwd } :=
    ⟨⟨rfl, h.first.proper.makeDirectories _ _⟩, ⟨rfl, h.second.proper.makeDirectories _ _⟩,
      hallows⟩
  cases hok : (workspace.files.makeDirectories cwd path).1 with
  | error refusal => exact .error hbeside
  | ok => exact .ok rfl ⟨hbeside, hmade hok⟩

/-- Directories are made beside others. -/
theorem beside_makeDirectories {path : String} (error : ε)
    (hstart : start cwd path ∉ territory.ways)
    (hown : ∀ stage ∈ stages cwd path, stage ∉ territory.own) :
    (makeDirectories path error).GoesBeside cwd territory :=
  (tandem_makeDirectories_beside error hstart hown).imp (fun _ _ h => h) fun _ _ h => h.1

/-- A text is written beside others to a file of some name, if neither the file nor what is on the
way to it belongs to the territory. -/
theorem beside_writeText {base name : String} (hname : IsName name) (content : String)
    (hstart : start cwd base ∉ territory.ways)
    (hown : ∀ stage ∈ stages cwd base, stage ∉ territory.own)
    (htarget : target cwd (Path.join base name) ∉ territory.own)
    (hways : target cwd (Path.join base name) ∉ territory.ways) :
    (writeText (Path.join base name) content).GoesBeside cwd territory := by
  obtain ⟨parent, hparent, hstarts, hstages⟩ := exists_parent?_join hname base
  rw [writeText, makeParents, hparent]
  rw [← hstarts] at hstart
  refine (tandem_makeDirectories_beside _ hstart fun stage hstage =>
    hown stage ((hstages cwd stage).1 hstage)).bind fun _ => ?_
  rintro workspace other ⟨h, hsame⟩
  have hlocate : other.files.locate cwd (Path.join base name) =
      workspace.files.locate cwd (Path.join base name) := by
    refine Tree.locate_congr fun stage hstage => hsame stage ((hstages cwd stage).2 ?_)
    rwa [mem_dropLast_stages_join hname] at hstage
  have hget := h.allows.get?_eq htarget hways
  rw [exec_replaceFiles, exec_replaceFiles, h.first.cwd, h.second.cwd]
  cases hfound : workspace.files.locate cwd (Path.join base name) with
  | error refusal =>
    rw [Tree.write, Tree.write, hlocate, hfound]
    exact .error h
  | ok location =>
    obtain rfl := Tree.target_eq_of_locate hfound
    by_cases hdirectory : workspace.files.get? (target cwd (Path.join base name)) = some .directory
    · rw [Tree.write_of_directory hfound hdirectory,
        Tree.write_of_directory (hlocate.trans hfound) (hget.trans hdirectory)]
      exact .error h
    · have hwrite : workspace.files.write cwd (Path.join base name) content.toUTF8 = _ :=
        Tree.write_of_locate hfound hdirectory
      have hwrite' : other.files.write cwd (Path.join base name) content.toUTF8 = _ :=
        Tree.write_of_locate (hlocate.trans hfound) (by rwa [hget])
      rw [hwrite, hwrite']
      exact .ok rfl ⟨⟨rfl, h.first.proper.write hwrite⟩, ⟨rfl, h.second.proper.write hwrite'⟩,
        h.allows.set _ _⟩

/-- A file is removed beside others if its path is spared. -/
theorem beside_removeFileIfPresent {path : String} (h : territory.Spares cwd path) :
    (removeFileIfPresent path).GoesBeside cwd territory := by
  refine .of_keeps (keeps_properAt_removeFileIfPresent path) fun start other hbeside => ?_
  have hsame : other.isFile path = start.isFile path := by
    rw [Workspace.isFile, Workspace.isFile, hbeside.first.cwd, hbeside.second.cwd,
      h.isFile_eq hbeside.allows hbeside.first.proper]
  by_cases hfile : start.isFile path = true
  · obtain ⟨final, hremove, hfinal⟩ := removeFileIfPresent_yields_of_isFile hfile
    obtain ⟨final', hremove', hfinal'⟩ :=
      removeFileIfPresent_yields_of_isFile (hsame.trans hfile)
    rw [hbeside.first.cwd] at hfinal
    rw [hbeside.second.cwd] at hfinal'
    rw [hremove, hremove']
    exact ⟨rfl, hbeside.allows.without hfinal hfinal'⟩
  · rw [removeFileIfPresent_yields_of_not_isFile hfile,
      removeFileIfPresent_yields_of_not_isFile (hsame ▸ hfile)]
    exact ⟨rfl, hbeside.allows⟩

/-- A directory that its path calls by its name is removed beside others, if the path is spared and
does not end on the ways. -/
theorem beside_removeDirectoryIfPresent {path : String} (h : territory.Spares cwd path)
    (hways : target cwd path ∉ territory.ways) (hname : (lastName? path).isSome = true)
    (hroot : target cwd path ≠ []) :
    (removeDirectoryIfPresent path).GoesBeside cwd territory := by
  refine .of_keeps (keeps_properAt_removeDirectoryIfPresent path) fun start other hbeside => ?_
  obtain ⟨⟨rfl, hproper⟩, ⟨hcwd, -⟩, hallows⟩ := hbeside
  have hnode : other.files.node other.cwd path = start.files.node start.cwd path := by
    rw [hcwd]
    exact h.node_eq hallows hproper hways
  obtain ⟨result, lost, final, final', hremove, hremove', hfinal, hfinal'⟩ :=
    exec_removeDirectoryIfPresent_of_node_eq hcwd hnode hname hroot
  rw [hremove, hremove']
  exact ⟨rfl, hallows.without hfinal hfinal'⟩

/-- The files with an extension are removed from a directory beside others, if its path is spared
and no place of such a file belongs to the territory. -/
theorem beside_removeFilesWithExtension {dir extension : String} (h : territory.Spares cwd dir)
    (hown : ∀ location ∈ Tree.sources cwd dir extension, location ∉ territory.own) :
    (removeFilesWithExtension dir extension).GoesBeside cwd territory := by
  refine .of_keeps (keeps_properAt_removeFilesWithExtension dir extension)
    fun start other hbeside => ?_
  obtain ⟨⟨rfl, hproper⟩, ⟨hcwd, hproper'⟩, hallows⟩ := hbeside
  have hfiles (location : Location) (hmem : location ∈ Tree.sources start.cwd dir extension) :
      other.files.fileAt? location = start.files.fileAt? location :=
    hallows.fileAt?_eq (hown location hmem)
  rcases h.node_eq_or hallows hproper with hsame | ⟨-, habsent, hmissing, hmade⟩
  · have hnode : other.files.node other.cwd dir = start.files.node start.cwd dir := by
      rw [hcwd]
      exact hsame
    obtain ⟨result, lost, final, final', hremove, hremove', hfinal, hfinal'⟩ :=
      exec_removeFilesWithExtension_of_node_eq hcwd hnode hproper hproper' hfiles
    rw [hremove, hremove']
    exact ⟨rfl, hallows.without hfinal hfinal'⟩
  · obtain ⟨paths', final', hremove', hfinal', -, hmem'⟩ :=
      removeFilesWithExtension_yields_of_directory extension hproper' (hcwd ▸ hmade)
    rw [hcwd] at hfinal' hmem'
    -- a directory that somebody else has made holds no such file
    have hnil : paths' = [] := by
      rw [← List.map_eq_nil_iff (f := target start.cwd), List.eq_nil_iff_forall_not_mem]
      intro location hlocation
      obtain ⟨hsource, hsome⟩ := (hmem' location).1 hlocation
      rw [hfiles _ hsource, Tree.fileAt?, hproper.get?_of_mem_sources habsent hsource] at hsome
      cases hsome
    subst hnil
    rw [exec_removeFilesWithExtension_of_absent hmissing, hremove']
    exact ⟨rfl, hallows.without ⟨rfl, rfl, by simp, fun _ _ => rfl⟩ hfinal'⟩

end Action

end SnippetCheck
