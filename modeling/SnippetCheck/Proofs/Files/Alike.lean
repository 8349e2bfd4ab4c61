import Mathlib.Data.Set.Basic
import SnippetCheck.Proofs.Files.Parent

/-!
# Trees That Differ In Some Places

Two trees are alike up to some files and some directories (`Tree.Alike`) if they hold the same
everywhere but at these: a file may differ or be missing, and a directory may be missing. What is
read by a path that leads through none of these places is the same in both (`Alike.readText_eq`).
What is made or written in both is the same in both afterwards, and succeeds in one just when it
succeeds in the other (`Alike.makeDirectories`, `Alike.write`).
-/

namespace SnippetCheck.Files.Tree

variable {files dirs : Set Location} {tree other : Tree} {cwd location : Location} {path : String}

/-- The same stands at a location in two trees; or it is one of the files that may differ, and no
directory stands there; or it is one of the directories that may be missing, and no file stands
there. -/
def AlikeAt (files dirs : Set Location) (tree other : Tree) (location : Location) : Prop :=
  other.get? location = tree.get? location ∨
  (location ∈ files ∧ tree.get? location ≠ some .directory ∧
    other.get? location ≠ some .directory) ∨
  location ∈ dirs ∧ tree.fileAt? location = none ∧ other.fileAt? location = none

/-- Two trees are the same but for some files that may differ and some directories that may be
missing. -/
def Alike (files dirs : Set Location) (tree other : Tree) : Prop :=
  ∀ location, tree.AlikeAt files dirs other location

instance (files dirs : Set Location) (tree other : Tree) (location : Location)
    [Decidable (location ∈ files)] [Decidable (location ∈ dirs)] :
    Decidable (tree.AlikeAt files dirs other location) :=
  decidable_of_iff (other.get? location = tree.get? location ∨
    (location ∈ files ∧ tree.get? location ≠ some .directory ∧
      other.get? location ≠ some .directory) ∨
    location ∈ dirs ∧ (tree.fileAt? location).isNone = true ∧
      (other.fileAt? location).isNone = true) (by
    simp only [AlikeAt, Option.isNone_iff_eq_none])

/-- Places that hold the same are alike. -/
theorem AlikeAt.of_eq (h : other.get? location = tree.get? location) :
    tree.AlikeAt files dirs other location :=
  .inl h

/-- Nothing but what may differ does. -/
theorem AlikeAt.get?_eq (h : tree.AlikeAt files dirs other location) (hfiles : location ∉ files)
    (hdirs : location ∉ dirs) : other.get? location = tree.get? location := by
  rcases h with heq | ⟨hmem, -⟩ | ⟨hmem, -⟩
  · exact heq
  · exact absurd hmem hfiles
  · exact absurd hmem hdirs

/-- A file may only differ where files may. -/
theorem AlikeAt.fileAt?_eq (h : tree.AlikeAt files dirs other location)
    (hfiles : location ∉ files) : other.fileAt? location = tree.fileAt? location := by
  rcases h with heq | ⟨hmem, -⟩ | ⟨-, hnone, hnone'⟩
  · exact fileAt?_congr heq
  · exact absurd hmem hfiles
  · rw [hnone, hnone']

/-- What stands at a location is alike up to more. -/
theorem AlikeAt.mono {files' dirs' : Set Location} (h : tree.AlikeAt files dirs other location)
    (hfiles : location ∈ files → location ∈ files') (hdirs : location ∈ dirs → location ∈ dirs') :
    tree.AlikeAt files' dirs' other location :=
  h.imp_right (Or.imp (And.imp_left hfiles) (And.imp_left hdirs))

/-- Being alike at a location is about what stands there only. -/
theorem AlikeAt.congr {tree' other' : Tree} (h : tree.AlikeAt files dirs other location)
    (htree : tree'.get? location = tree.get? location)
    (hother : other'.get? location = other.get? location) :
    tree'.AlikeAt files dirs other' location := by
  unfold AlikeAt at h ⊢
  rwa [fileAt?_congr htree, fileAt?_congr hother, htree, hother]

/-- Trees are alike everywhere if they are at their entries. -/
theorem alikeAt_of_entries {condition : Location → Prop}
    (h : ∀ location ∈ (tree.entries ++ other.entries).map Prod.fst, condition location →
      tree.AlikeAt files dirs other location) (location : Location)
    (hcondition : condition location) : tree.AlikeAt files dirs other location := by
  by_cases hmem : location ∈ (tree.entries ++ other.entries).map Prod.fst
  · exact h location hmem hcondition
  · have hnone {entries : List (Location × Node)} (hnot : location ∉ entries.map Prod.fst) :
        entries.lookup location = none := by
      rw [List.lookup_eq_none_iff]
      rintro entry hentry
      rw [bne_iff_ne]
      rintro rfl
      exact hnot (List.mem_map_of_mem hentry)
    rw [List.map_append, List.mem_append, not_or] at hmem
    refine .of_eq ?_
    unfold get?
    split
    · rfl
    · rw [hnone hmem.1, hnone hmem.2]

namespace Alike

/-- Trees are alike up to more. -/
theorem mono {files' dirs' : Set Location} (h : tree.Alike files dirs other)
    (hfiles : files ⊆ files') (hdirs : dirs ⊆ dirs') : tree.Alike files' dirs' other :=
  fun location => (h location).mono (fun hmem => hfiles hmem) fun hmem => hdirs hmem

/-! ## Reading -/

/-- What a path leads to is the same if it leads through nothing that may differ. -/
theorem node_eq (h : tree.Alike files dirs other)
    (hway : ∀ stage ∈ stages cwd path, stage ∉ files ∧ stage ∉ dirs) :
    other.node cwd path = tree.node cwd path :=
  node_congr fun stage hstage => (h stage).get?_eq (hway stage hstage).1 (hway stage hstage).2

/-! ## Changing the same in both -/

/-- When the same is put in the same place, that place is the same in both. -/
theorem set (h : tree.Alike files dirs other) (location : Location) (node : Node) :
    (tree.set location node).Alike (files \ {location}) (dirs \ {location})
      (other.set location node) := by
  intro stage
  by_cases hstage : stage = location
  · subst hstage
    refine .of_eq ?_
    by_cases hroot : stage = []
    · rw [hroot]
      rfl
    · rw [get?_set_self _ _ hroot, get?_set_self _ _ hroot]
  · exact ((h stage).congr (get?_set_of_ne tree node hstage)
      (get?_set_of_ne other node hstage)).mono (fun hmem => ⟨hmem, hstage⟩)
        fun hmem => ⟨hmem, hstage⟩

end Alike

/-- A tree with a directory where nothing has stood. -/
def withDirectory (tree : Tree) (location : Location) : Tree :=
  match tree.get? location with
  | none => tree.set location .directory
  | some _ => tree

/-- Where no file stands, there is a directory then. -/
theorem get?_withDirectory_self (h : tree.fileAt? location = none) :
    (tree.withDirectory location).get? location = some .directory := by
  unfold withDirectory
  split
  next hnone =>
    refine get?_set_self _ _ ?_
    rintro rfl
    cases hnone
  next node hnode =>
    cases node with
    | file bytes =>
      rw [fileAt?, hnode] at h
      cases h
    | directory => exact hnode

/-- Nothing else changes. -/
theorem get?_withDirectory_of_ne {stage : Location} (h : stage ≠ location) :
    (tree.withDirectory location).get? stage = tree.get? stage := by
  unfold withDirectory
  split
  · exact get?_set_of_ne _ _ h
  · rfl

/-- Making directories along some parts goes on from the first one if that can be made. -/
theorem makeAlong_cons_of_enter {part : String} {parts : List String} {next : Location}
    (henter : tree.enter location part = .ok next) (h : tree.fileAt? next = none) :
    tree.makeAlong location (part :: parts) = (tree.withDirectory next).makeAlong next parts := by
  rw [makeAlong, henter]
  dsimp only
  unfold withDirectory
  cases hget : tree.get? next with
  | none => rfl
  | some node =>
    cases node with
    | file bytes =>
      rw [fileAt?, hget] at h
      cases h
    | directory => rfl

/-- Making directories along some parts stops where a file stands. -/
theorem makeAlong_cons_of_file {part : String} {parts : List String} {next : Location}
    {bytes : ByteArray} (henter : tree.enter location part = .ok next)
    (h : tree.fileAt? next = some bytes) :
    tree.makeAlong location (part :: parts) = (.error .notDirectory, tree) := by
  rw [makeAlong, henter]
  dsimp only
  rw [fileAt?_eq_some.1 h]

/-- Making directories along some parts stops where a part cannot be followed. -/
theorem makeAlong_cons_of_error {part : String} {parts : List String} {refusal : Refusal}
    (henter : tree.enter location part = .error refusal) :
    tree.makeAlong location (part :: parts) = (.error refusal, tree) := by
  rw [makeAlong, henter]

/-- Making directories along some parts stops at the first one and changes nothing, or has this one
and goes on. -/
theorem makeAlong_cons_cases (tree : Tree) (location : Location) (part : String)
    (parts : List String) :
    (∃ refusal, tree.makeAlong location (part :: parts) = (.error refusal, tree)) ∨
      tree.enter location part = .ok (follow location part) ∧
        tree.fileAt? (follow location part) = none ∧
        tree.makeAlong location (part :: parts) =
          (tree.withDirectory (follow location part)).makeAlong (follow location part) parts := by
  cases henter : tree.enter location part with
  | error refusal => exact .inl ⟨refusal, makeAlong_cons_of_error henter⟩
  | ok next =>
    obtain ⟨-, rfl⟩ := enter_eq_follow henter
    cases hfile : tree.fileAt? (follow location part) with
    | some bytes => exact .inl ⟨_, makeAlong_cons_of_file henter hfile⟩
    | none => exact .inr ⟨rfl, rfl, makeAlong_cons_of_enter henter hfile⟩

/-- Directories that are made along some parts from a directory are there. -/
theorem get?_stage_of_makeAlong {parts : List String}
    (hstart : tree.get? location = some .directory)
    (h : (tree.makeAlong location parts).1 = .ok ()) :
    ∀ stage ∈ parts.scanl follow location,
      (tree.makeAlong location parts).2.get? stage = some .directory := by
  induction parts generalizing tree location with
  | nil =>
    intro stage hstage
    rw [List.scanl_nil, List.mem_singleton] at hstage
    rw [hstage]
    exact hstart
  | cons part parts ih =>
    rcases makeAlong_cons_cases tree location part parts with ⟨refusal, hmade⟩ | ⟨-, hfile, hmade⟩
    · rw [hmade] at h
      cases h
    · rw [hmade] at h ⊢
      have hnext := get?_withDirectory_self hfile
      intro stage hstage
      rw [List.scanl_cons] at hstage
      rcases List.mem_cons.1 hstage with rfl | hlater
      · -- making what comes later leaves the first directory where it is
        refine (makeAlong_keeps _ _ _).1 stage ?_
        by_cases hsame : stage = follow stage part
        · rwa [← hsame] at hnext ⊢
        · rwa [get?_withDirectory_of_ne hsame]
      · exact ih hnext h stage hlater

/-- Where no directory stands, no part can be followed. -/
theorem exists_enter_eq_error (h : tree.get? location ≠ some .directory) (part : String) :
    ∃ refusal, tree.enter location part = .error refusal := by
  unfold enter
  split
  next => exact ⟨_, rfl⟩
  next => exact ⟨_, rfl⟩
  next hdirectory => exact absurd hdirectory h

section Related

variable {related : Tree → Tree → Prop}
  (hput : ∀ tree other location, related tree other → tree.fileAt? location = none →
    other.fileAt? location = none → related (tree.withDirectory location)
      (other.withDirectory location))
include hput

/-- Directories along some parts are made in both of two trees or in neither, and leave them
related, if what relates them has the same files on the way and stays when a directory is put in one
place of both. -/
theorem makeAlong_related {parts : List String} (h : related tree other)
    (htree : tree.get? location = some .directory) (hother : other.get? location = some .directory)
    (hfiles : ∀ tree other, related tree other → ∀ stage ∈ parts.scanl follow location,
      other.fileAt? stage = tree.fileAt? stage) :
    (other.makeAlong location parts).1 = (tree.makeAlong location parts).1 ∧
      related (tree.makeAlong location parts).2 (other.makeAlong location parts).2 := by
  induction parts generalizing tree other location with
  | nil => exact ⟨rfl, h⟩
  | cons part parts ih =>
    have hsame : other.enter location part = tree.enter location part := by
      rw [enter, enter, htree, hother]
    cases henter : tree.enter location part with
    | error refusal =>
      rw [makeAlong_cons_of_error henter, makeAlong_cons_of_error (hsame.trans henter)]
      exact ⟨rfl, h⟩
    | ok next =>
      obtain ⟨-, rfl⟩ := enter_eq_follow henter
      rw [List.scanl_cons] at hfiles
      have hnext := hfiles tree other h (follow location part)
        (List.mem_cons_of_mem _ (by cases parts <;> simp))
      cases hfile : tree.fileAt? (follow location part) with
      | some bytes =>
        rw [makeAlong_cons_of_file henter hfile,
          makeAlong_cons_of_file (hsame.trans henter) (hnext.trans hfile)]
        exact ⟨rfl, h⟩
      | none =>
        have hnone := hnext.trans hfile
        rw [makeAlong_cons_of_enter henter hfile,
          makeAlong_cons_of_enter (hsame.trans henter) hnone]
        exact ih (hput _ _ _ h hfile hnone) (get?_withDirectory_self hfile)
          (get?_withDirectory_self hnone) fun tree other hrelated stage hstage =>
            hfiles tree other hrelated stage (List.mem_cons_of_mem _ hstage)

/-- A directory and those above it are made in both of two trees or in neither, and leave them
related. Once they are made, the same stands on the way in both. -/
theorem makeDirectories_related (h : related tree other)
    (hstart : other.get? (start cwd path) = tree.get? (start cwd path))
    (hfiles : ∀ tree other, related tree other → ∀ stage ∈ stages cwd path,
      other.fileAt? stage = tree.fileAt? stage) :
    (other.makeDirectories cwd path).1 = (tree.makeDirectories cwd path).1 ∧
      related (tree.makeDirectories cwd path).2 (other.makeDirectories cwd path).2 ∧
      ((tree.makeDirectories cwd path).1 = .ok () → ∀ stage ∈ stages cwd path,
        (other.makeDirectories cwd path).2.get? stage =
          (tree.makeDirectories cwd path).2.get? stage) := by
  unfold Tree.makeDirectories
  split
  next hempty =>
    subst hempty
    refine ⟨rfl, h, fun _ stage hstage => ?_⟩
    -- the empty path leads nowhere
    have heq : stage = start cwd "" := by simpa [stages, parts, Text.splitAt] using hstage
    rw [heq, hstart]
  split
  next =>
    refine ⟨rfl, h, fun hok => ?_⟩
    cases hok
  next =>
    by_cases hdirectory : tree.get? (start cwd path) = some .directory
    · have hother := hstart.trans hdirectory
      obtain ⟨hresult, hrelated⟩ := makeAlong_related hput h hdirectory hother hfiles
      refine ⟨hresult, hrelated, fun hok stage hstage => ?_⟩
      rw [get?_stage_of_makeAlong hdirectory hok stage hstage,
        get?_stage_of_makeAlong hother (hresult.trans hok) stage hstage]
    · -- nothing can be made where no directory is to start from
      have hne : parts path ≠ [] := by simpa [parts] using Text.splitAt_ne_nil '/' path.toList
      obtain ⟨part, rest, hparts⟩ := List.exists_cons_of_ne_nil hne
      obtain ⟨refusal, henter⟩ := exists_enter_eq_error hdirectory part
      have henter' : other.enter (start cwd path) part = .error refusal := by
        rw [← henter, enter, enter, hstart]
      rw [hparts, makeAlong_cons_of_error henter, makeAlong_cons_of_error henter']
      refine ⟨rfl, h, fun hok => ?_⟩
      cases hok

end Related

/-- A file is written where a path leads, unless a directory stands there. -/
theorem write_of_locate {bytes : ByteArray} (hlocate : tree.locate cwd path = .ok location)
    (h : tree.get? location ≠ some .directory) :
    tree.write cwd path bytes = .ok (tree.set location (.file bytes)) := by
  unfold Tree.write
  rw [hlocate]
  dsimp only [bind, Except.bind]
  split
  next hdirectory => exact absurd hdirectory h
  next => rfl

/-- No file is written where a directory stands. -/
theorem write_of_directory {bytes : ByteArray} (hlocate : tree.locate cwd path = .ok location)
    (h : tree.get? location = some .directory) :
    tree.write cwd path bytes = .error .isDirectory := by
  simp only [Tree.write, hlocate, bind, Except.bind, h]
  rfl

namespace Alike

/-- When a directory is put where no file stands in both, they stay alike. -/
theorem withDirectory (h : tree.Alike files dirs other) (htree : tree.fileAt? location = none)
    (hother : other.fileAt? location = none) :
    (tree.withDirectory location).Alike files dirs (other.withDirectory location) := by
  intro stage
  by_cases hstage : stage = location
  · subst hstage
    refine .of_eq ?_
    rw [get?_withDirectory_self htree, get?_withDirectory_self hother]
  · exact (h stage).congr (get?_withDirectory_of_ne hstage) (get?_withDirectory_of_ne hstage)

/-- Directories that are the same in both are not missing in either. -/
theorem without (h : tree.Alike files dirs other) {same : Set Location}
    (hsame : ∀ stage ∈ same, other.get? stage = tree.get? stage) :
    tree.Alike files (dirs \ same) other := by
  intro stage
  by_cases hmem : stage ∈ same
  · exact .of_eq (hsame stage hmem)
  · exact (h stage).mono (fun hfile => hfile) fun hdir => ⟨hdir, hmem⟩

/-- Making a directory and those above it ends alike in both, and none of them is missing in either
afterwards. -/
theorem makeDirectories (h : tree.Alike files dirs other) (hstart : start cwd path ∉ dirs)
    (hway : ∀ stage ∈ stages cwd path, stage ∉ files) :
    (other.makeDirectories cwd path).1 = (tree.makeDirectories cwd path).1 ∧
      ((tree.makeDirectories cwd path).1 = .ok () →
        (tree.makeDirectories cwd path).2.Alike files (dirs \ {stage | stage ∈ stages cwd path})
          (other.makeDirectories cwd path).2) := by
  have hsame := (h (start cwd path)).get?_eq (hway _ (start_mem_stages cwd path)) hstart
  obtain ⟨hresult, halike, hmade⟩ := makeDirectories_related
    (fun _ _ _ (h : Alike files dirs _ _) => h.withDirectory) h hsame
    fun tree other h stage hstage => (h stage).fileAt?_eq (hway stage hstage)
  exact ⟨hresult, fun hok => halike.without (hmade hok)⟩

/-- Writing the same bytes to the same place succeeds in both or in neither, and that place is the
same in both afterwards. -/
theorem write (h : tree.Alike files dirs other) (bytes : ByteArray)
    (hway : ∀ stage ∈ (stages cwd path).dropLast, stage ∉ files ∧ stage ∉ dirs)
    (htarget : target cwd path ∉ dirs) :
    (∃ refusal refusal', tree.write cwd path bytes = .error refusal ∧
      other.write cwd path bytes = .error refusal') ∨
    ∃ after after', tree.write cwd path bytes = .ok after ∧
      other.write cwd path bytes = .ok after' ∧
      after.Alike (files \ {target cwd path}) dirs after' := by
  have hlocate : other.locate cwd path = tree.locate cwd path :=
    locate_congr fun stage hstage => (h stage).get?_eq (hway stage hstage).1 (hway stage hstage).2
  have hdirectory : other.get? (target cwd path) = some .directory ↔
      tree.get? (target cwd path) = some .directory := by
    rcases h (target cwd path) with heq | ⟨-, htree, hother⟩ | ⟨hmem, -⟩
    · rw [heq]
    · exact iff_of_false hother htree
    · exact absurd hmem htarget
  cases hfound : tree.locate cwd path with
  | error refusal =>
    refine .inl ⟨refusal, refusal, ?_, ?_⟩
    · rw [Tree.write, hfound]
      rfl
    · rw [Tree.write, hlocate, hfound]
      rfl
  | ok location =>
    obtain rfl := target_eq_of_locate hfound
    by_cases htree : tree.get? (target cwd path) = some .directory
    · exact .inl ⟨_, _, write_of_directory hfound htree,
        write_of_directory (hlocate.trans hfound) (hdirectory.2 htree)⟩
    · refine .inr ⟨_, _, write_of_locate hfound htree,
        write_of_locate (hlocate.trans hfound) (mt hdirectory.1 htree), ?_⟩
      exact (h.set _ _).mono (fun _ hmem => hmem) fun _ hmem => hmem.1

end Alike

end SnippetCheck.Files.Tree
