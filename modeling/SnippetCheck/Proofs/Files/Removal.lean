import Mathlib.Data.List.Induction
import Mathlib.Data.List.Nodup
import Mathlib.Data.Set.Insert
import SnippetCheck.Proofs.Files.Change
import SnippetCheck.Proofs.Files.Parent

/-!
# What Is Left After Removing

In a tree as file systems have them (`Tree.Proper`), what stands somewhere can be reached by a path
(`Tree.Reaches`), so that removing it succeeds. `start.Without lost final` says that a workspace has
become another one by losing what has stood at some locations, and nothing else has changed:
`removeFilesWithExtension_yields`, `removeDirectoryIfPresent_yields` and
`removeFileIfPresent_yields`.
-/

namespace SnippetCheck

namespace Files.Tree

/-- A tree as file systems have them: no location is listed twice, the names on the way to a
location are names, and they lead through directories. -/
structure Proper (tree : Tree) : Prop where
  nodup : (tree.entries.map Prod.fst).Nodup
  names : ∀ entry ∈ tree.entries, ∀ name ∈ entry.1, IsName name
  closed : ∀ location name, (tree.get? (location ++ [name])).isSome = true →
    tree.get? location = some .directory

/-- If anything stands where a path leads to, the path can be followed. -/
def Reaches (tree : Tree) (cwd : Location) (path : String) : Prop :=
  (tree.get? (target cwd path)).isSome = true → tree.locate cwd path = .ok (target cwd path)

variable {tree : Tree} {cwd location : Location} {name : String}

/-- What a path leads to can be reached. -/
theorem reaches_of_node {path : String} {node : Node} (h : tree.node cwd path = .ok node) :
    tree.Reaches cwd path :=
  fun _ => (node_eq_ok.1 h).1

/-- Where a file is reached, a path leads to it. -/
theorem Reaches.node_of_fileAt? {path : String} {bytes : ByteArray} (h : tree.Reaches cwd path)
    (hfile : tree.fileAt? (target cwd path) = some bytes) :
    tree.node cwd path = .ok (.file bytes) := by
  have hget := fileAt?_eq_some.1 hfile
  exact node_eq_ok.2 ⟨h (by rw [hget]; rfl), hget⟩

/-- Where a file stands, something does. -/
theorem isSome_get?_of_fileAt? (h : (tree.fileAt? location).isSome = true) :
    (tree.get? location).isSome = true := by
  obtain ⟨bytes, hfile⟩ := Option.isSome_iff_exists.1 h
  rw [fileAt?_eq_some.1 hfile]
  rfl

/-! ## Names in a directory -/

/-- The name of a location that stands directly below another one. -/
private def nameBelow? (location other : Location) : Option String :=
  if location.isPrefixOf other && location.length < other.length then
    match other.drop location.length with
    | [name] => some name
    | _ => none
  else none

/-- A location has a name below another one just when this name leads there. -/
private theorem nameBelow?_eq_some {other : Location} :
    nameBelow? location other = some name ↔ other = location ++ [name] := by
  unfold nameBelow?
  constructor
  · intro h
    split at h
    next hbelow =>
      rw [Bool.and_eq_true, List.isPrefixOf_iff_prefix] at hbelow
      obtain ⟨⟨rest, rfl⟩, -⟩ := hbelow
      rw [List.drop_left] at h
      split at h
      next => rw [Option.some.inj h]
      next => cases h
    next => cases h
  · rintro rfl
    simp

/-- The names in a directory are those of the listed locations directly below it. -/
private theorem names_eq (tree : Tree) (location : Location) :
    tree.names location = (tree.entries.map Prod.fst).filterMap (nameBelow? location) := by
  rw [names, below, List.filterMap_filterMap, List.filterMap_map]
  congr 1
  funext ⟨other, node⟩
  dsimp only [Function.comp]
  unfold nameBelow?
  split
  · rfl
  · rfl

/-- A location other than the root is listed when something stands there. -/
private theorem mem_map_entries_iff (h : location ≠ []) :
    location ∈ tree.entries.map Prod.fst ↔ (tree.get? location).isSome = true := by
  rw [get?, if_neg h, List.lookup_isSome_iff, List.mem_map]
  constructor
  · rintro ⟨entry, hmem, rfl⟩
    exact ⟨entry, hmem, beq_self_eq_true _⟩
  · rintro ⟨entry, hmem, heq⟩
    exact ⟨entry, hmem, (eq_of_beq heq).symm⟩

/-- Whether a tree is as file systems have them can be told from its entries. -/
theorem proper_iff : tree.Proper ↔ (tree.entries.map Prod.fst).Nodup ∧
    (∀ entry ∈ tree.entries, ∀ name ∈ entry.1, IsName name) ∧
    ∀ entry ∈ tree.entries, tree.get? entry.1.dropLast = some .directory := by
  constructor
  · refine fun h => ⟨h.nodup, h.names, fun entry hmem => ?_⟩
    rcases List.eq_nil_or_concat entry.1 with hroot | ⟨location, name, hsplit⟩
    · rw [hroot]
      rfl
    · rw [List.concat_eq_append] at hsplit
      rw [hsplit, List.dropLast_concat]
      refine h.closed location name ((mem_map_entries_iff (by simp)).1 ?_)
      rw [← hsplit]
      exact List.mem_map_of_mem hmem
  · rintro ⟨hnodup, hnames, hclosed⟩
    refine ⟨hnodup, hnames, fun location name hsome => ?_⟩
    obtain ⟨entry, hmem, hentry⟩ := List.mem_map.1 ((mem_map_entries_iff (by simp)).2 hsome)
    have hdirectory := hclosed entry hmem
    rwa [hentry, List.dropLast_concat] at hdirectory

instance (name : String) : Decidable (IsName name) :=
  decidable_of_iff ('/' ∉ name.toList ∧ name ≠ "" ∧ name ≠ "." ∧ name ≠ "..")
    ⟨fun h => ⟨h.1, h.2.1, h.2.2.1, h.2.2.2⟩, fun h => ⟨h.no_slash, h.ne_empty, h.ne_here, h.ne_up⟩⟩

instance (tree : Tree) : Decidable tree.Proper :=
  decidable_of_iff _ proper_iff.symm

instance (tree : Tree) (cwd : Location) (path : String) : Decidable (tree.Reaches cwd path) :=
  inferInstanceAs (Decidable (_ → _))

/-- A name is in a directory when something stands under it there. -/
theorem mem_names_iff :
    name ∈ tree.names location ↔ (tree.get? (location ++ [name])).isSome = true := by
  rw [← mem_map_entries_iff (by simp), names_eq, List.mem_filterMap]
  simp only [nameBelow?_eq_some]
  exact ⟨fun ⟨other, hmem, heq⟩ => heq ▸ hmem, fun hmem => ⟨_, hmem, rfl⟩⟩

/-- No name is in a directory twice. -/
theorem Proper.nodup_names (h : tree.Proper) (location : Location) :
    (tree.names location).Nodup := by
  rw [names_eq]
  refine List.Nodup.filterMap (fun other other' name hother hother' => ?_) h.nodup
  rw [nameBelow?_eq_some.1 hother, nameBelow?_eq_some.1 hother']

/-- What is in a directory has a name. -/
theorem Proper.isName (h : tree.Proper) (hmem : name ∈ tree.names location) : IsName name := by
  have hlisted := (mem_map_entries_iff (by simp)).2 (mem_names_iff.1 hmem)
  obtain ⟨entry, hentry, heq⟩ := List.mem_map.1 hlisted
  exact h.names entry hentry name (by simp [heq])

/-- Where no directory stands, nothing stands below. -/
theorem Proper.get?_eq_none_below (h : tree.Proper) (hnone : tree.get? location = none)
    {other : Location} (hinside : location <+: other) : tree.get? other = none := by
  obtain ⟨rest, rfl⟩ := hinside
  induction rest using List.reverseRecOn with
  | nil => rwa [List.append_nil]
  | append_singleton rest name ih =>
    rw [← List.append_assoc, ← Option.not_isSome_iff_eq_none]
    intro hsome
    rw [h.closed _ name hsome] at ih
    cases ih

/-! ## Files in a directory -/

/-- A path that can be followed is usable. -/
private theorem isUsable_of_locate {path : String} {found : Location}
    (h : tree.locate cwd path = .ok found) : isUsable path = true := by
  unfold locate at h
  split at h
  · cases h
  split at h
  · cases h
  next husable => simpa using husable

/-- From a directory, a name can be followed unless it is too long. -/
private theorem enter_eq_ok_iff (h : IsName name)
    (hdirectory : tree.get? location = some .directory) {next : Location} :
    tree.enter location name = .ok next ↔
      name.utf8ByteSize ≤ 255 ∧ next = location ++ [name] := by
  unfold enter
  rw [hdirectory]
  dsimp only
  rw [if_neg (by simp [h.ne_empty, h.ne_here]), if_neg h.ne_up]
  split
  next hlong => exact iff_of_false nofun fun hshort => Nat.not_lt.2 hshort.1 hlong
  next hshort =>
    rw [Except.ok.injEq, eq_comm]
    exact ⟨fun heq => ⟨Nat.not_lt.1 hshort, heq⟩, fun heq => heq.2⟩

/-- After some parts, one more is followed from where they lead. -/
private theorem foldlM_enter_append_singleton (parts : List String) (part : String) :
    (parts ++ [part]).foldlM tree.enter location =
      parts.foldlM tree.enter location >>= fun next => tree.enter next part := by
  simp [List.foldlM_append]

/-- A name that is joined to the path of a directory can be followed if neither the name nor the
whole path is too long. -/
private theorem locate_join_iff (h : IsName name) {dir : String}
    (hdir : tree.locate cwd dir = .ok location)
    (hdirectory : tree.get? location = some .directory) :
    (∃ found, tree.locate cwd (Path.join dir name) = .ok found) ↔
      name.utf8ByteSize ≤ 255 ∧ isUsable (Path.join dir name) = true := by
  have hdirNe : dir ≠ "" := by
    rintro rfl
    cases hdir
  have hfold : (parts dir).foldlM tree.enter (start cwd dir) = .ok location := by
    have husable := isUsable_of_locate hdir
    unfold locate at hdir
    rwa [if_neg hdirNe, if_neg (by simp [husable])] at hdir
  obtain ⟨before, hparts, hbefore⟩ := exists_parts_join h dir hdirNe
  have hinside : before.foldlM tree.enter (start cwd dir) = .ok location := by
    rcases hbefore with heq | heq
    · rwa [← heq]
    · -- an empty part at the end of the path is no step
      rw [heq, foldlM_enter_append_singleton] at hfold
      cases hlast : before.foldlM tree.enter (start cwd dir) with
      | error refusal =>
        rw [hlast] at hfold
        cases hfold
      | ok last =>
        rw [hlast] at hfold
        have henter : tree.enter last "" = .ok location := hfold
        rw [(enter_eq_follow henter).2, follow_empty]
  have hne : Path.join dir name ≠ "" := by
    intro heq
    rw [heq] at hparts
    have hlast := congrArg List.getLast? hparts
    rw [List.getLast?_concat] at hlast
    exact h.ne_empty (Option.some.inj hlast).symm
  unfold locate
  rw [if_neg hne]
  split
  next hunusable => exact iff_of_false nofun fun husable => by simp [husable.2] at hunusable
  next husable =>
    have hlast : (parts (Path.join dir name)).foldlM tree.enter (start cwd (Path.join dir name)) =
        tree.enter location name := by
      rw [hparts, foldlM_enter_append_singleton, start_join h, hinside]
      rfl
    simp only [hlast, enter_eq_ok_iff h hdirectory]
    simpa using fun _ => husable

/-- A joined path that can be followed ends in a name that is not too long. -/
theorem utf8ByteSize_le_of_locate_join (h : IsName name) {base : String} {found : Location}
    (hlocate : tree.locate cwd (Path.join base name) = .ok found) : name.utf8ByteSize ≤ 255 := by
  obtain ⟨before, rest, hparts, -⟩ := exists_parts_join_eq_append h base
  unfold locate at hlocate
  split at hlocate
  · cases hlocate
  split at hlocate
  · cases hlocate
  rw [hparts, foldlM_enter_append_singleton] at hlocate
  cases hfirst : before.foldlM tree.enter (start cwd (Path.join base name)) with
  | error refusal =>
    rw [hfirst] at hlocate
    cases hlocate
  | ok next =>
    rw [hfirst] at hlocate
    have henter : tree.enter next name = .ok found := hlocate
    exact ((enter_eq_ok_iff h (enter_eq_follow henter).1).1 henter).1

/-- A path leads to a file just when it can be followed to one. -/
theorem isFile_iff {path : String} :
    tree.isFile cwd path = true ↔ ∃ bytes, tree.node cwd path = .ok (.file bytes) := by
  unfold isFile
  cases tree.node cwd path with
  | error refusal => simp
  | ok node => cases node <;> simp

/-- A path leads to a directory just when it can be followed to one. -/
theorem isDirectory_iff {path : String} :
    tree.isDirectory cwd path = true ↔ tree.node cwd path = .ok .directory := by
  unfold isDirectory
  cases tree.node cwd path with
  | error refusal => simp
  | ok node => cases node <;> simp

/-- A name that is joined to the path of a directory leads to a file there, if neither the name
nor the whole path is too long. -/
private theorem isFile_join_iff (h : IsName name) {dir : String}
    (hdir : tree.locate cwd dir = .ok location)
    (hdirectory : tree.get? location = some .directory) :
    tree.isFile cwd (Path.join dir name) = true ↔ name.utf8ByteSize ≤ 255 ∧
      isUsable (Path.join dir name) = true ∧
      (tree.fileAt? (target cwd (Path.join dir name))).isSome = true := by
  have hlocate : tree.locate cwd (Path.join dir name) = .ok (target cwd (Path.join dir name)) ↔
      name.utf8ByteSize ≤ 255 ∧ isUsable (Path.join dir name) = true := by
    rw [← locate_join_iff h hdir hdirectory]
    exact ⟨fun hok => ⟨_, hok⟩, fun ⟨found, hok⟩ => by rw [hok, target_eq_of_locate hok]⟩
  simp only [isFile_iff, node_eq_ok, exists_and_left, hlocate, Option.isSome_iff_exists,
    fileAt?_eq_some, and_assoc]

/-- Where the files with an extension stand whose paths can be made from that of a directory. -/
def sources (cwd : Location) (dir extension : String) : Set Location :=
  {location | ∃ name, IsName name ∧ name.utf8ByteSize ≤ 255 ∧
    isUsable (Path.join dir name) = true ∧
    Path.extension? (Path.join dir name) = some extension ∧
    location = target cwd (Path.join dir name)}

/-- What may be found with an extension has it. -/
theorem extensionAt?_of_mem_sources {dir extension : String}
    (h : location ∈ sources cwd dir extension) : extensionAt? location = some extension := by
  obtain ⟨name, -, -, -, hextension, hlocation⟩ := h
  rw [hlocation]
  exact extensionAt?_target hextension cwd

/-- What may be found in a directory stands right in it. -/
theorem dropLast_of_mem_sources {dir extension : String}
    (h : location ∈ sources cwd dir extension) : location.dropLast = target cwd dir := by
  obtain ⟨name, hname, -, -, -, hlocation⟩ := h
  rw [hlocation, target_join hname, List.dropLast_concat]

/-- Where there is no directory, nothing can be found in it. -/
theorem Proper.get?_of_mem_sources {dir extension : String} (hproper : tree.Proper)
    (habsent : tree.get? (target cwd dir) = none) (h : location ∈ sources cwd dir extension) :
    tree.get? location = none := by
  refine hproper.get?_eq_none_below habsent ?_
  rw [← dropLast_of_mem_sources h]
  exact List.dropLast_prefix location

end Files.Tree

open Files

/-- A workspace has become another one by losing what has stood at some locations. -/
structure Workspace.Without (start : Workspace) (lost : Set Location) (final : Workspace) :
    Prop where
  cwd : final.cwd = start.cwd
  launches : final.launches = start.launches
  gone : ∀ location ∈ lost, final.files.get? location = none
  kept : ∀ location ∉ lost, final.files.get? location = start.files.get? location

namespace Workspace.Without

variable {start between final : Workspace} {lost lost' : Set Location}

/-- Nothing is lost where nothing changes. -/
theorem refl (start : Workspace) : start.Without ∅ start :=
  ⟨rfl, rfl, fun _ hlost => absurd hlost (Set.notMem_empty _), fun _ _ => rfl⟩

/-- What has been lost in two steps has been lost. -/
theorem trans (h : start.Without lost between) (h' : between.Without lost' final) :
    start.Without (lost ∪ lost') final where
  cwd := h'.cwd.trans h.cwd
  launches := h'.launches.trans h.launches
  gone location hmem := by
    by_cases hlost : location ∈ lost'
    · exact h'.gone location hlost
    · rw [h'.kept location hlost]
      exact h.gone location (hmem.resolve_right hlost)
  kept location hmem :=
    (h'.kept location fun hlost => hmem (.inr hlost)).trans
      (h.kept location fun hlost => hmem (.inl hlost))

/-- Nothing has been put anywhere. -/
theorem get?_eq_or (h : start.Without lost final) (location : Location) :
    final.files.get? location = start.files.get? location ∨ final.files.get? location = none := by
  by_cases hlost : location ∈ lost
  · exact .inr (h.gone location hlost)
  · exact .inl (h.kept location hlost)

/-- Where there was nothing, there is nothing. -/
theorem get?_eq_none (h : start.Without lost final) {location : Location}
    (hnone : start.files.get? location = none) : final.files.get? location = none :=
  (h.get?_eq_or location).elim (fun hkept => hkept.trans hnone) id

/-- Where there was no file, there is none. -/
theorem fileAt?_eq_none (h : start.Without lost final) {location : Location}
    (hnone : start.files.fileAt? location = none) : final.files.fileAt? location = none := by
  rcases h.get?_eq_or location with hkept | hgone
  · rw [Tree.fileAt?_congr hkept, hnone]
  · rw [Tree.fileAt?, hgone]

/-- Where a file would have been lost, there is none. -/
theorem fileAt?_eq_none_of_lost (h : start.Without lost final) {location : Location}
    (hlost : (start.files.fileAt? location).isSome = true → location ∈ lost) :
    final.files.fileAt? location = none := by
  cases hfile : start.files.fileAt? location with
  | none => exact h.fileAt?_eq_none hfile
  | some bytes => rw [Tree.fileAt?, h.gone location (hlost (by rw [hfile]; rfl))]

/-- When no directory has been lost, directories have been kept. -/
theorem keepsDirectories (h : start.Without lost final)
    (hlost : ∀ location ∈ lost, start.files.get? location ≠ some .directory) :
    start.files.KeepsDirectories final.files := by
  intro location hdirectory
  rw [h.kept location fun hmem => hlost location hmem hdirectory, hdirectory]

/-- When no directory has been lost, a path leads to what it has led to, unless that has been
lost. -/
theorem node_eq_ok (h : start.Without lost final)
    (hlost : ∀ location ∈ lost, start.files.get? location ≠ some .directory) {path : String}
    {node : Node} (htarget : target start.cwd path ∉ lost)
    (hnode : start.files.node start.cwd path = .ok node) :
    final.files.node final.cwd path = .ok node := by
  obtain ⟨hlocate, hget⟩ := Tree.node_eq_ok.1 hnode
  rw [h.cwd, Tree.node_eq_ok, h.kept _ htarget]
  exact ⟨Tree.locate_of_keepsDirectories (h.keepsDirectories hlost) hlocate, hget⟩

end Workspace.Without

namespace Action

variable {start : Workspace} {path : String}

/-- A file that a path leads to can be removed, and nothing else changes. -/
theorem removeFile_yields {bytes : ByteArray} (error : FileError)
    (h : start.files.node start.cwd path = .ok (.file bytes)) :
    ∃ final, (replaceFiles (fun files cwd => files.removeFile cwd path) error).Yields start ()
      final ∧ start.Without {target start.cwd path} final := by
  obtain ⟨hlocate, hget⟩ := Tree.node_eq_ok.1 h
  have hroot : target start.cwd path ≠ [] := by
    intro heq
    rw [heq] at hget
    cases hget
  have hremove : start.files.removeFile start.cwd path =
      .ok (start.files.erase (target start.cwd path)) := by
    simp [Tree.removeFile, hlocate, bind, Except.bind, hget, pure, Except.pure]
  refine ⟨_, yields_replaceFiles.2 ⟨_, hremove, rfl⟩, rfl, rfl, ?_, ?_⟩
  · rintro _ rfl
    simp [Tree.erase, Tree.get?_eraseIf, hroot]
  · intro location hne
    rw [Set.mem_singleton_iff] at hne
    by_cases hempty : location = []
    · rw [hempty]
      rfl
    · simp [Tree.erase, Tree.get?_eraseIf, hne, hempty]

/-- Files that different paths lead to can be removed, and nothing else changes. -/
theorem removeFiles_yields {paths : List String}
    (hnodup : (paths.map (target start.cwd)).Nodup)
    (hfiles : ∀ path ∈ paths, ∃ bytes, start.files.node start.cwd path = .ok (.file bytes)) :
    ∃ final, (removeFiles paths).Yields start () final ∧
      start.Without {location | location ∈ paths.map (target start.cwd)} final := by
  induction paths generalizing start with
  | nil => exact ⟨start, yields_pure.2 ⟨rfl, rfl⟩, rfl, rfl, by simp, fun _ _ => rfl⟩
  | cons path paths ih =>
    obtain ⟨hfirst, hrest⟩ := List.nodup_cons.1 hnodup
    obtain ⟨bytes, hnode⟩ := hfiles path List.mem_cons_self
    obtain ⟨between, hremove, hwithout⟩ := removeFile_yields (.notRemoved path) hnode
    rw [← hwithout.cwd] at hrest
    have hlost : ∀ location ∈ ({target start.cwd path} : Set Location),
        start.files.get? location ≠ some .directory := by
      rintro _ rfl
      rw [(Tree.node_eq_ok.1 hnode).2]
      nofun
    -- the other paths lead to other files, which are there still
    obtain ⟨final, hlater, hwithout'⟩ := ih hrest fun other hother => by
      obtain ⟨bytes', hnode'⟩ := hfiles other (List.mem_cons_of_mem path hother)
      refine ⟨bytes', hwithout.node_eq_ok hlost (fun heq => hfirst ?_) hnode'⟩
      rw [← Set.mem_singleton_iff.1 heq]
      exact List.mem_map_of_mem hother
    refine ⟨final, yields_bind.2 ⟨(), between, hremove, hlater⟩, ?_⟩
    have hboth : {location | location ∈ (path :: paths).map (target start.cwd)} =
        {target start.cwd path} ∪ {location | location ∈ paths.map (target between.cwd)} := by
      rw [hwithout.cwd]
      ext location
      simp
    rw [hboth]
    exact hwithout.trans hwithout'

/-! ## What is removed if it is present -/

/-- A file or a directory is present just when something stands where its path leads. -/
private theorem isPresent_iff {workspace : Workspace} :
    workspace.isPresent path = true ↔
      ∃ node, workspace.files.node workspace.cwd path = .ok node := by
  unfold Workspace.isPresent Tree.isPresent Tree.isFile Tree.isDirectory
  cases workspace.files.node workspace.cwd path with
  | error refusal => simp
  | ok node => cases node <;> simp

/-- What a path reaches is present just when it is there. -/
private theorem isPresent_iff_of_reaches (h : start.files.Reaches start.cwd path) :
    start.isPresent path = true ↔ (start.files.get? (target start.cwd path)).isSome = true := by
  rw [isPresent_iff]
  constructor
  · rintro ⟨node, hnode⟩
    rw [(Tree.node_eq_ok.1 hnode).2]
    rfl
  · intro hsome
    obtain ⟨node, hget⟩ := Option.isSome_iff_exists.1 hsome
    exact ⟨node, Tree.node_eq_ok.2 ⟨h hsome, hget⟩⟩

/-- The files with an extension that are found in a directory are those that stand where such files
do, each of them once. -/
theorem exists_filesWithExtension {dir : String} (extension : String)
    (hproper : start.files.Proper)
    (hreaches : start.files.Reaches start.cwd dir)
    (hdirectory : start.files.get? (target start.cwd dir) = some .directory) :
    ∃ paths, start.filesWithExtension dir extension = .ok paths ∧
      (paths.map (target start.cwd)).Nodup ∧
      (∀ path ∈ paths, ∃ bytes, start.files.node start.cwd path = .ok (.file bytes)) ∧
      ∀ location, location ∈ paths.map (target start.cwd) ↔
        location ∈ Tree.sources start.cwd dir extension ∧
          (start.files.fileAt? location).isSome = true := by
  have hlocate := hreaches (by rw [hdirectory]; rfl)
  have hjoin (name : String) (hname : name ∈ start.files.names (target start.cwd dir)) :
      (target start.cwd ∘ Path.join dir) name = target start.cwd dir ++ [name] :=
    target_join (hproper.isName hname) _ _
  have hpaths : start.filesWithExtension dir extension =
      .ok (((start.files.names (target start.cwd dir)).map (Path.join dir)).filter fun path =>
        start.isFile path && Path.extension? path = some extension) := by
    simp [Workspace.filesWithExtension, hlocate, bind, Except.bind, hdirectory, pure, Except.pure]
  refine ⟨_, hpaths, ?_, ?_, fun location => ?_⟩
  · refine List.Nodup.sublist (List.filter_sublist.map _) ?_
    rw [List.map_map, List.map_congr_left hjoin]
    exact (hproper.nodup_names _).map fun name other heq => by simpa using heq
  · intro path hmem
    exact Tree.isFile_iff.1 (Bool.and_eq_true_iff.1 (List.mem_filter.1 hmem).2).1
  · simp only [List.mem_map, List.mem_filter, Bool.and_eq_true, decide_eq_true_eq]
    constructor
    · rintro ⟨_, ⟨⟨name, hname, rfl⟩, hfile, hextension⟩, rfl⟩
      have hisName := hproper.isName hname
      obtain ⟨hshort, husable, hsome⟩ := (Tree.isFile_join_iff hisName hlocate hdirectory).1 hfile
      exact ⟨⟨name, hisName, hshort, husable, hextension, rfl⟩, hsome⟩
    · rintro ⟨⟨name, hisName, hshort, husable, hextension, hlocation⟩, hsome⟩
      rw [hlocation] at hsome
      refine ⟨Path.join dir name, ⟨⟨name, ?_, rfl⟩, ?_, hextension⟩, hlocation.symm⟩
      · obtain ⟨bytes, hfile⟩ := Option.isSome_iff_exists.1 hsome
        rw [Tree.mem_names_iff, ← target_join hisName, Tree.fileAt?_eq_some.1 hfile]
        rfl
      · exact (Tree.isFile_join_iff hisName hlocate hdirectory).2 ⟨hshort, husable, hsome⟩

/-- Removing the files with an extension from a directory that is there removes just these, and
tells how many there were. -/
theorem removeFilesWithExtension_yields_of_directory {dir : String} (extension : String)
    (hproper : start.files.Proper) (hnode : start.files.node start.cwd dir = .ok .directory) :
    ∃ (paths : List String) (final : Workspace),
      (removeFilesWithExtension dir extension).Yields start paths.length final ∧
      start.Without {location | location ∈ paths.map (target start.cwd)} final ∧
      (paths.map (target start.cwd)).Nodup ∧
      ∀ location, location ∈ paths.map (target start.cwd) ↔
        location ∈ Tree.sources start.cwd dir extension ∧
          (start.files.fileAt? location).isSome = true := by
  obtain ⟨paths, hpaths, hnodup, hfiles, hmem⟩ := exists_filesWithExtension extension hproper
    (Tree.reaches_of_node hnode) (Tree.node_eq_ok.1 hnode).2
  obtain ⟨final, hremove, hwithout⟩ := removeFiles_yields hnodup hfiles
  refine ⟨paths, final, ?_, hwithout, hnodup, hmem⟩
  unfold removeFilesWithExtension
  rw [yields_get_bind, if_pos (isPresent_iff.2 ⟨_, hnode⟩), hpaths]
  exact yields_bind.2 ⟨(), final, hremove, yields_pure.2 ⟨rfl, rfl⟩⟩

/-- Removing the files with an extension from a directory removes just these, if no file stands in
the place of the directory. -/
theorem removeFilesWithExtension_yields {dir extension : String} (hproper : start.files.Proper)
    (hreaches : start.files.Reaches start.cwd dir)
    (hfile : start.files.fileAt? (target start.cwd dir) = none) :
    ∃ count final, (removeFilesWithExtension dir extension).Yields start count final ∧
      start.Without {location | location ∈ Tree.sources start.cwd dir extension ∧
        (start.files.fileAt? location).isSome = true} final := by
  by_cases hpresent : start.isPresent dir = true
  · obtain ⟨node, hnode⟩ := isPresent_iff.1 hpresent
    have hdirectory : node = .directory := by
      cases node with
      | file bytes =>
        rw [Tree.fileAt?_eq_some.2 (Tree.node_eq_ok.1 hnode).2] at hfile
        cases hfile
      | directory => rfl
    subst hdirectory
    obtain ⟨paths, final, hremove, hwithout, -, hmem⟩ :=
      removeFilesWithExtension_yields_of_directory extension hproper hnode
    refine ⟨paths.length, final, hremove, ?_⟩
    simpa only [hmem] using hwithout
  · have habsent := mt (isPresent_iff_of_reaches hreaches).2 hpresent
    have hyields : (removeFilesWithExtension dir extension).Yields start 0 start := by
      unfold removeFilesWithExtension
      rw [yields_get_bind, if_neg hpresent]
      exact yields_pure.2 ⟨rfl, rfl⟩
    refine ⟨0, start, hyields, rfl, rfl, ?_, fun _ _ => rfl⟩
    -- nothing stands in a directory that is not there
    rintro location ⟨hsource, -⟩
    exact hproper.get?_of_mem_sources (Option.not_isSome_iff_eq_none.1 habsent) hsource

/-- No files are removed from what is a file itself. -/
theorem exec_removeFilesWithExtension_of_file {dir extension : String} {bytes : ByteArray}
    (hnode : start.files.node start.cwd dir = .ok (.file bytes)) :
    (removeFilesWithExtension dir extension).exec start = (.error (.notRead dir), start) := by
  obtain ⟨hlocate, hget⟩ := Tree.node_eq_ok.1 hnode
  unfold removeFilesWithExtension
  rw [exec_get_bind, if_pos (isPresent_iff.2 ⟨_, hnode⟩)]
  simp [Workspace.filesWithExtension, hlocate, bind, Except.bind, hget, throw, throwThe,
    MonadExceptOf.throw]
  rfl

/-- No files are removed from what is not there. -/
theorem exec_removeFilesWithExtension_of_absent {dir extension : String} {refusal : Refusal}
    (h : start.files.node start.cwd dir = .error refusal) :
    (removeFilesWithExtension dir extension).exec start = (.ok 0, start) := by
  have habsent : ¬ start.isPresent dir = true := by
    rw [isPresent_iff, h]
    rintro ⟨node, hnode⟩
    cases hnode
  unfold removeFilesWithExtension
  rw [exec_get_bind, if_neg habsent]
  rfl

/-- Where a path leads to the same in two workspaces, and the same files are in their directory,
files are removed from both with the same result. -/
theorem exec_removeFilesWithExtension_of_node_eq {other : Workspace} {dir extension : String}
    (hcwd : other.cwd = start.cwd)
    (hsame : other.files.node other.cwd dir = start.files.node start.cwd dir)
    (hproper : start.files.Proper) (hproper' : other.files.Proper)
    (hfiles : ∀ location ∈ Tree.sources start.cwd dir extension,
      other.files.fileAt? location = start.files.fileAt? location) :
    ∃ result lost final final',
      (removeFilesWithExtension dir extension).exec start = (result, final) ∧
      (removeFilesWithExtension dir extension).exec other = (result, final') ∧
      start.Without lost final ∧ other.Without lost final' := by
  cases hnode : start.files.node start.cwd dir with
  | error refusal =>
    exact ⟨_, _, _, _, exec_removeFilesWithExtension_of_absent hnode,
      exec_removeFilesWithExtension_of_absent (hsame.trans hnode), .refl _, .refl _⟩
  | ok node =>
    cases node with
    | file bytes =>
      exact ⟨_, _, _, _, exec_removeFilesWithExtension_of_file hnode,
        exec_removeFilesWithExtension_of_file (hsame.trans hnode), .refl _, .refl _⟩
    | directory =>
      obtain ⟨paths, final, hremove, hfinal, hnodup, hmem⟩ :=
        removeFilesWithExtension_yields_of_directory extension hproper hnode
      obtain ⟨paths', final', hremove', hfinal', hnodup', hmem'⟩ :=
        removeFilesWithExtension_yields_of_directory extension hproper' (hsame.trans hnode)
      rw [hcwd] at hfinal' hnodup' hmem'
      -- the same files are found
      have hlost (location : Location) : location ∈ paths'.map (target start.cwd) ↔
          location ∈ paths.map (target start.cwd) := by
        rw [hmem, hmem']
        exact and_congr_right fun hsource => by rw [hfiles location hsource]
      have hcount : paths'.length = paths.length := by
        simpa using ((List.perm_ext_iff_of_nodup hnodup' hnodup).2 hlost).length_eq
      rw [hcount] at hremove'
      simp only [hlost] at hfinal'
      exact ⟨_, _, final, final', hremove, hremove', hfinal, hfinal'⟩

/-- Removing a directory that is there removes it with what stands below. -/
theorem removeDirectoryIfPresent_yields_of_directory
    (hnode : start.files.node start.cwd path = .ok .directory)
    (hname : (lastName? path).isSome = true) (hroot : target start.cwd path ≠ []) :
    ∃ final, (removeDirectoryIfPresent path).Yields start true final ∧
      start.Without {location | target start.cwd path <+: location} final := by
  obtain ⟨hlocate, hdirectory⟩ := Tree.node_eq_ok.1 hnode
  have hremove : start.files.removeDirectory start.cwd path =
      (.ok (), start.files.eraseFrom (target start.cwd path)) := by
    simp [Tree.removeDirectory, hlocate, hdirectory, hname]
  refine ⟨{ start with files := (start.files.removeDirectory start.cwd path).2 }, ?_, rfl, rfl,
    fun location hmem => ?_, fun location hmem => ?_⟩
  · unfold removeDirectoryIfPresent
    rw [yields_get_bind, if_pos (isPresent_iff.2 ⟨_, hnode⟩)]
    exact yields_bind.2 ⟨(), _, yields_changeFiles.2 ⟨by rw [hremove], rfl⟩,
      yields_pure.2 ⟨rfl, rfl⟩⟩
  · have hne : location ≠ [] := by
      rintro rfl
      exact hroot (List.prefix_nil.1 hmem)
    have hinside := List.isPrefixOf_iff_prefix.2 hmem
    simp [hremove, Tree.eraseFrom, Tree.get?_eraseIf, hne, hinside]
  · have hinside : (target start.cwd path).isPrefixOf location = false := by
      rw [← Bool.not_eq_true, List.isPrefixOf_iff_prefix]
      exact hmem
    by_cases hempty : location = []
    · rw [hempty]
      rfl
    · simp [hremove, Tree.eraseFrom, Tree.get?_eraseIf, hempty, hinside]

/-- Removing a directory removes what stands in its place and below, if no file stands in its
place. -/
theorem removeDirectoryIfPresent_yields (hreaches : start.files.Reaches start.cwd path)
    (hfile : start.files.fileAt? (target start.cwd path) = none)
    (hbelow : start.files.get? (target start.cwd path) = none →
      ∀ location, target start.cwd path <+: location → start.files.get? location = none)
    (hname : (lastName? path).isSome = true) (hroot : target start.cwd path ≠ []) :
    ∃ present final, (removeDirectoryIfPresent path).Yields start present final ∧
      start.Without {location | target start.cwd path <+: location} final := by
  by_cases hpresent : start.isPresent path = true
  · obtain ⟨node, hnode⟩ := isPresent_iff.1 hpresent
    have hdirectory : node = .directory := by
      cases node with
      | file bytes =>
        rw [Tree.fileAt?_eq_some.2 (Tree.node_eq_ok.1 hnode).2] at hfile
        cases hfile
      | directory => rfl
    subst hdirectory
    exact ⟨true, removeDirectoryIfPresent_yields_of_directory hnode hname hroot⟩
  · have habsent := mt (isPresent_iff_of_reaches hreaches).2 hpresent
    have hyields : (removeDirectoryIfPresent path).Yields start false start := by
      unfold removeDirectoryIfPresent
      rw [yields_get_bind, if_neg hpresent]
      exact yields_pure.2 ⟨rfl, rfl⟩
    exact ⟨false, start, hyields, rfl, rfl,
      hbelow (Option.not_isSome_iff_eq_none.1 habsent), fun _ _ => rfl⟩

/-- A file is not removed as a directory. -/
theorem exec_removeDirectoryIfPresent_of_file {bytes : ByteArray}
    (hnode : start.files.node start.cwd path = .ok (.file bytes)) :
    (removeDirectoryIfPresent path).exec start = (.error (.notRemoved path), start) := by
  obtain ⟨hlocate, hget⟩ := Tree.node_eq_ok.1 hnode
  have hremove : start.files.removeDirectory start.cwd path =
      (.error .notDirectory, start.files) := by
    simp [Tree.removeDirectory, hlocate, hget]
  unfold removeDirectoryIfPresent
  rw [exec_get_bind, if_pos (isPresent_iff.2 ⟨_, hnode⟩), exec_bind, changeFiles, exec_get_bind,
    hremove]
  rfl

/-- No directory is removed that is not there. -/
theorem exec_removeDirectoryIfPresent_of_absent {refusal : Refusal}
    (h : start.files.node start.cwd path = .error refusal) :
    (removeDirectoryIfPresent path).exec start = (.ok false, start) := by
  have habsent : ¬ start.isPresent path = true := by
    rw [isPresent_iff, h]
    rintro ⟨node, hnode⟩
    cases hnode
  unfold removeDirectoryIfPresent
  rw [exec_get_bind, if_neg habsent]
  rfl

/-- Where a path leads to the same in two workspaces, a directory is removed from both with the same
result, if the path calls it by its name. -/
theorem exec_removeDirectoryIfPresent_of_node_eq {other : Workspace} (hcwd : other.cwd = start.cwd)
    (hsame : other.files.node other.cwd path = start.files.node start.cwd path)
    (hname : (lastName? path).isSome = true) (hroot : target start.cwd path ≠ []) :
    ∃ result lost final final',
      (removeDirectoryIfPresent path).exec start = (result, final) ∧
      (removeDirectoryIfPresent path).exec other = (result, final') ∧
      start.Without lost final ∧ other.Without lost final' := by
  cases hnode : start.files.node start.cwd path with
  | error refusal =>
    exact ⟨_, _, _, _, exec_removeDirectoryIfPresent_of_absent hnode,
      exec_removeDirectoryIfPresent_of_absent (hsame.trans hnode), .refl _, .refl _⟩
  | ok node =>
    cases node with
    | file bytes =>
      exact ⟨_, _, _, _, exec_removeDirectoryIfPresent_of_file hnode,
        exec_removeDirectoryIfPresent_of_file (hsame.trans hnode), .refl _, .refl _⟩
    | directory =>
      obtain ⟨final, hremove, hfinal⟩ :=
        removeDirectoryIfPresent_yields_of_directory hnode hname hroot
      obtain ⟨final', hremove', hfinal'⟩ :=
        removeDirectoryIfPresent_yields_of_directory (hsame.trans hnode) hname (hcwd ▸ hroot)
      rw [hcwd] at hfinal'
      exact ⟨_, _, final, final', hremove, hremove', hfinal, hfinal'⟩

/-- Removing a file that is there removes it. -/
theorem removeFileIfPresent_yields_of_isFile (hfile : start.isFile path = true) :
    ∃ final, (removeFileIfPresent path).Yields start true final ∧
      start.Without {target start.cwd path} final := by
  obtain ⟨bytes, hnode⟩ := Tree.isFile_iff.1 hfile
  obtain ⟨final, hremove, hwithout⟩ := removeFile_yields (.notRemoved path) hnode
  refine ⟨final, ?_, hwithout⟩
  unfold removeFileIfPresent
  rw [yields_get_bind, if_pos hfile]
  exact yields_bind.2 ⟨(), final, hremove, yields_pure.2 ⟨rfl, rfl⟩⟩

/-- No file is removed that is not there. -/
theorem removeFileIfPresent_yields_of_not_isFile (hfile : ¬ start.isFile path = true) :
    (removeFileIfPresent path).Yields start false start := by
  unfold removeFileIfPresent
  rw [yields_get_bind, if_neg hfile]
  exact yields_pure.2 ⟨rfl, rfl⟩

/-- Removing a file removes what stands in its place unless that is a directory, if a file in its
place can be reached. -/
theorem removeFileIfPresent_yields
    (hreaches : (start.files.fileAt? (target start.cwd path)).isSome = true →
      start.files.locate start.cwd path = .ok (target start.cwd path)) :
    ∃ present final, (removeFileIfPresent path).Yields start present final ∧
      start.Without {location | location = target start.cwd path ∧
        (start.files.fileAt? location).isSome = true} final := by
  by_cases hfile : start.isFile path = true
  · obtain ⟨final, hyields, hwithout⟩ := removeFileIfPresent_yields_of_isFile hfile
    have hsome : (start.files.fileAt? (target start.cwd path)).isSome = true := by
      obtain ⟨bytes, hnode⟩ := Tree.isFile_iff.1 hfile
      rw [Tree.fileAt?_eq_some.2 (Tree.node_eq_ok.1 hnode).2]
      rfl
    have hsame : {location | location = target start.cwd path ∧
        (start.files.fileAt? location).isSome = true} = {target start.cwd path} := by
      ext location
      exact ⟨fun hmem => hmem.1, fun hmem => ⟨hmem, by rwa [Set.mem_singleton_iff.1 hmem]⟩⟩
    exact ⟨true, final, hyields, by rwa [hsame]⟩
  · refine ⟨false, start, removeFileIfPresent_yields_of_not_isFile hfile, rfl, rfl, ?_,
      fun _ _ => rfl⟩
    -- a file would have been reached
    rintro _ ⟨rfl, hsome⟩
    obtain ⟨bytes, hbytes⟩ := Option.isSome_iff_exists.1 hsome
    exact absurd (Tree.isFile_iff.2
      ⟨bytes, Tree.node_eq_ok.2 ⟨hreaches hsome, Tree.fileAt?_eq_some.1 hbytes⟩⟩) hfile

end Action

end SnippetCheck
