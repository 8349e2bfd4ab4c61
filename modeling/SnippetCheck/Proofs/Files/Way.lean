import SnippetCheck.Proofs.Files.Change

/-!
# The Way Along A Path

A path leads through several locations, from where it starts to its target: `stages`. All that is
found by a path depends on what stands there (`Tree.readText_congr`). A path that stays out of a
directory (`Avoids`) is therefore read as before once that directory is removed, with all that
stands in it (`Action.keeps_removeDirectoryIfPresent`).
-/

namespace SnippetCheck

namespace Files

/-- The locations that a path leads through, from where it starts to its target. -/
def stages (cwd : Location) (path : String) : List Location :=
  (parts path).scanl follow (start cwd path)

/-- A path stays out of a directory: it leads neither to it nor to anything below it, not even on
its way. -/
def Avoids (dir cwd : Location) (path : String) : Prop :=
  ∀ location ∈ stages cwd path, ¬ dir <+: location

instance (dir cwd : Location) (path : String) : Decidable (Avoids dir cwd path) :=
  inferInstanceAs (Decidable (∀ location ∈ stages cwd path, _))

/-- Where some parts lead is one of the locations on their way. -/
private theorem foldl_follow_mem_scanl (parts : List String) (location : Location) :
    parts.foldl follow location ∈ parts.scanl follow location := by
  induction parts generalizing location with
  | nil => simp
  | cons part parts ih =>
    rw [List.foldl_cons, List.scanl_cons]
    exact List.mem_cons_of_mem _ (ih _)

/-- The target of a path is one of the locations that it leads through. -/
theorem target_mem_stages (cwd : Location) (path : String) :
    target cwd path ∈ stages cwd path :=
  foldl_follow_mem_scanl _ _

/-- A location on the way of some parts comes before their end, or is where they lead. -/
private theorem mem_scanl_iff {parts : List String} {location stage : Location} :
    stage ∈ parts.scanl follow location ↔
      stage ∈ (parts.scanl follow location).dropLast ∨ stage = parts.foldl follow location := by
  induction parts generalizing location with
  | nil => simp
  | cons part parts ih =>
    rw [List.scanl_cons, List.dropLast_cons_of_ne_nil (by cases parts <;> simp), List.mem_cons,
      List.mem_cons, List.foldl_cons, or_assoc]
    exact or_congr_right ih

/-- A path leads through what is on its way, and to its target. -/
theorem mem_stages_iff_dropLast {cwd stage : Location} {path : String} :
    stage ∈ stages cwd path ↔ stage ∈ (stages cwd path).dropLast ∨ stage = target cwd path :=
  mem_scanl_iff

/-- The start of a path is one of the locations that it leads through. -/
theorem start_mem_stages (cwd : Location) (path : String) : start cwd path ∈ stages cwd path := by
  unfold stages
  cases parts path <;> simp

/-- The target of a path that stays out of a directory does so. -/
theorem Avoids.target {dir cwd : Location} {path : String} (h : Avoids dir cwd path) :
    ¬ dir <+: target cwd path :=
  h _ (target_mem_stages cwd path)

/-- Parts that do not lead up lead on from every location on their way. -/
private theorem isPrefix_of_mem_scanl {parts : List String} (h : ".." ∉ parts)
    {location stage : Location} (hstage : stage ∈ parts.scanl follow location) :
    stage <+: parts.foldl follow location := by
  induction parts generalizing location stage with
  | nil =>
    rw [List.scanl_nil, List.mem_singleton] at hstage
    rw [hstage]
    exact List.prefix_rfl
  | cons part parts ih =>
    obtain ⟨hpart, hrest⟩ := not_or.1 (mt List.mem_cons.2 h)
    rw [List.scanl_cons] at hstage
    rcases List.mem_cons.1 hstage with rfl | hlater
    · have hstep : stage <+: follow stage part := by
        unfold follow
        split
        · exact List.prefix_rfl
        · rw [if_neg (Ne.symm hpart)]
          exact List.prefix_append _ _
      have hnext : follow stage part ∈ parts.scanl follow (follow stage part) := by
        cases parts <;> simp
      exact hstep.trans (ih hrest hnext)
    · exact ih hrest hlater

/-- A path that does not lead up stays out of a directory just when its target lies outside. -/
theorem avoids_iff_of_not_mem_parts {dir cwd : Location} {path : String}
    (h : ".." ∉ parts path) : Avoids dir cwd path ↔ ¬ dir <+: target cwd path :=
  ⟨Avoids.target, fun houtside _ hstage hdir =>
    houtside (hdir.trans (isPrefix_of_mem_scanl h hstage))⟩

namespace Tree

variable {tree other : Tree} {cwd : Location} {path : String}

/-! ## What is found by a path -/

/-- Parts lead the same way in trees that hold the same on it. -/
private theorem foldlM_enter_congr {parts : List String} {location : Location}
    (h : ∀ stage ∈ (parts.scanl follow location).dropLast, other.get? stage = tree.get? stage) :
    parts.foldlM other.enter location = parts.foldlM tree.enter location := by
  induction parts generalizing location with
  | nil => rfl
  | cons part parts ih =>
    rw [List.scanl_cons, List.dropLast_cons_of_ne_nil (by cases parts <;> simp)] at h
    have hfirst : other.enter location part = tree.enter location part := by
      rw [enter, enter, h location List.mem_cons_self]
    rw [List.foldlM_cons, List.foldlM_cons, hfirst]
    cases hnext : tree.enter location part with
    | error refusal => rfl
    | ok next =>
      obtain ⟨-, rfl⟩ := enter_eq_follow hnext
      exact ih fun stage hstage => h stage (List.mem_cons_of_mem _ hstage)

/-- A path is followed alike in trees that hold the same on its way, whatever stands where it leads
to. -/
theorem locate_congr
    (h : ∀ stage ∈ (stages cwd path).dropLast, other.get? stage = tree.get? stage) :
    other.locate cwd path = tree.locate cwd path := by
  unfold locate
  split
  · rfl
  split
  · rfl
  · exact foldlM_enter_congr h

/-- Where parts can be followed, they lead through directories. -/
private theorem get?_of_foldlM_enter {parts : List String} {location last : Location}
    (h : parts.foldlM tree.enter location = .ok last) :
    ∀ stage ∈ (parts.scanl follow location).dropLast, tree.get? stage = some .directory := by
  induction parts generalizing location with
  | nil => simp
  | cons part parts ih =>
    rw [List.foldlM_cons] at h
    rw [List.scanl_cons, List.dropLast_cons_of_ne_nil (by cases parts <;> simp)]
    cases henter : tree.enter location part with
    | error refusal =>
      rw [henter] at h
      cases h
    | ok next =>
      rw [henter] at h
      obtain ⟨hdirectory, rfl⟩ := enter_eq_follow henter
      exact List.forall_mem_cons.2 ⟨hdirectory, ih h⟩

/-- A path that can be followed leads through directories. -/
theorem get?_of_locate {location : Location} (h : tree.locate cwd path = .ok location) :
    ∀ stage ∈ (stages cwd path).dropLast, tree.get? stage = some .directory := by
  unfold locate at h
  split at h
  · cases h
  split at h
  · cases h
  · exact get?_of_foldlM_enter h

/-- A path leads to the same node in trees that hold the same on its way. -/
theorem node_congr (h : ∀ stage ∈ stages cwd path, other.get? stage = tree.get? stage) :
    other.node cwd path = tree.node cwd path := by
  have hsame : other.locate cwd path = tree.locate cwd path :=
    locate_congr fun stage hstage => h stage (List.dropLast_subset _ hstage)
  rw [Tree.node, Tree.node, hsame]
  cases hlocate : tree.locate cwd path with
  | error refusal => rfl
  | ok location =>
    obtain rfl := target_eq_of_locate hlocate
    simp only [bind, Except.bind, h _ (target_mem_stages cwd path)]

/-- The same bytes are read by a path from trees that hold the same on its way. -/
theorem readBytes_congr (h : ∀ stage ∈ stages cwd path, other.get? stage = tree.get? stage) :
    other.readBytes cwd path = tree.readBytes cwd path := by
  rw [readBytes, readBytes, node_congr h]

/-- A path is read alike in trees that hold the same on its way. -/
theorem readText_congr (h : ∀ stage ∈ stages cwd path, other.get? stage = tree.get? stage) :
    other.readText cwd path = tree.readText cwd path := by
  rw [readText, readText, readBytes_congr h]

/-! ## Removing a directory -/

/-- Removing a directory changes nothing outside it. -/
theorem get?_removeDirectory {location : Location} (h : ¬ target cwd path <+: location) :
    (tree.removeDirectory cwd path).2.get? location = tree.get? location := by
  have herase (condition : Location → Bool) (hcondition : condition location = false) :
      (tree.eraseIf condition).get? location = tree.get? location := by
    rw [get?_eraseIf]
    split
    next hroot =>
      subst hroot
      rfl
    next => rw [if_neg (by simp [hcondition])]
  have houtside : (target cwd path).isPrefixOf location = false := by
    rwa [← Bool.not_eq_true, List.isPrefixOf_iff_prefix]
  unfold removeDirectory
  split
  next => rfl
  next found hlocate =>
    obtain rfl := target_eq_of_locate hlocate
    split
    next => rfl
    next => rfl
    next =>
      split
      · exact herase _ houtside
      · exact herase _ (by simp [houtside])

end Tree

end Files

namespace Action

open Files Workspace

variable {cwd : Location} {dir : String}

/-- Removing a directory changes nothing outside it. -/
private theorem keeps_removeDirectoryIfPresent_of_get? {holds : Workspace → Prop}
    (hmoved : ∀ start, holds start → start.cwd = cwd)
    (h : ∀ start files, holds start →
      (∀ location, ¬ target cwd dir <+: location →
        files.get? location = start.files.get? location) → holds { start with files }) :
    (removeDirectoryIfPresent dir).Keeps holds := by
  refine .removeDirectoryIfPresent fun start hstart =>
    h start _ hstart fun location hlocation => Tree.get?_removeDirectory ?_
  rwa [hmoved start hstart]

/-- Removing a directory leaves the bytes that are read by a path that stays out of it. -/
theorem keeps_removeDirectoryIfPresent_readsBytes {path : String} {bytes : ByteArray}
    (h : Avoids (target cwd dir) cwd path) :
    (removeDirectoryIfPresent dir).Keeps (ReadsBytes cwd path bytes) := by
  refine keeps_removeDirectoryIfPresent_of_get? (fun _ hstart => hstart.1) ?_
  rintro start files ⟨rfl, hread⟩ hfiles
  refine ⟨rfl, ?_⟩
  rw [← hread]
  exact Tree.readBytes_congr fun stage hstage => hfiles stage (h stage hstage)

/-- Removing a directory leaves the files outside it. -/
theorem keeps_removeDirectoryIfPresent_holdsAt {location : Location} {content : Option ByteArray}
    (h : ¬ target cwd dir <+: location) :
    (removeDirectoryIfPresent dir).Keeps (HoldsAt cwd location content) := by
  refine keeps_removeDirectoryIfPresent_of_get? (fun _ hstart => hstart.1) ?_
  rintro start files ⟨rfl, hcontent⟩ hfiles
  exact ⟨rfl, (Tree.fileAt?_congr (hfiles location h)).trans hcontent⟩

end Action

end SnippetCheck
