import SnippetCheck.Proofs.Files.Alike
import SnippetCheck.Proofs.Files.Removal

/-!
# A Place For A File

A path is clear (`Tree.Clear`) if it leads to a file or to nothing: no file stands on its way, and
no directory at its end. If there is no file then, the path is read as one that leads to nothing,
however many of the directories on its way are there (`Clear.readText_eq`). A path stays clear
when files are removed, and directories that it stays out of (`Clear.of_without`), and when
something is written elsewhere (`Action.keeps_writeText_clear`).
-/

namespace SnippetCheck

namespace Files.Tree

/-- A path leads to a file or to nothing. No file stands on its way, a directory can hold each of
its names, what stands at its end is no directory, and the path reaches it. -/
structure Clear (tree : Tree) (cwd : Location) (path : String) : Prop where
  usable : isUsable path = true
  short : ∀ part ∈ parts path, part.utf8ByteSize ≤ 255
  way : ∀ stage ∈ (stages cwd path).dropLast, tree.fileAt? stage = none
  place : tree.get? (target cwd path) ≠ some .directory
  reaches : tree.Reaches cwd path

instance (tree : Tree) (cwd : Location) (path : String) : Decidable (tree.Clear cwd path) :=
  decidable_of_iff (isUsable path = true ∧ (∀ part ∈ parts path, part.utf8ByteSize ≤ 255) ∧
    (∀ stage ∈ (stages cwd path).dropLast, (tree.fileAt? stage).isNone = true) ∧
    tree.get? (target cwd path) ≠ some .directory ∧ tree.Reaches cwd path)
    ⟨fun h => ⟨h.1, h.2.1, fun stage hstage => Option.isNone_iff_eq_none.1 (h.2.2.1 stage hstage),
      h.2.2.2.1, h.2.2.2.2⟩,
    fun h => ⟨h.usable, h.short,
      fun stage hstage => Option.isNone_iff_eq_none.2 (h.way stage hstage), h.place, h.reaches⟩⟩

variable {tree other : Tree} {cwd location : Location} {path : String}

/-! ## Following a clear path -/

/-- From a directory, every part that is not too long can be followed. -/
theorem enter_of_short {part : String} (hshort : part.utf8ByteSize ≤ 255)
    (hdirectory : tree.get? location = some .directory) :
    tree.enter location part = .ok (follow location part) := by
  unfold enter follow
  rw [hdirectory]
  dsimp only
  split
  · rfl
  split
  · rfl
  · rw [if_neg (Nat.not_lt.2 hshort)]

/-- Parts on whose way no file stands can be followed, unless a directory is missing. -/
private theorem foldlM_enter_of_clear {parts : List String}
    (hshort : ∀ part ∈ parts, part.utf8ByteSize ≤ 255)
    (hway : ∀ stage ∈ (parts.scanl follow location).dropLast, tree.fileAt? stage = none) :
    (∃ last, parts.foldlM tree.enter location = .ok last) ∨
      parts.foldlM tree.enter location = .error .notFound := by
  induction parts generalizing location with
  | nil => exact .inl ⟨location, rfl⟩
  | cons part parts ih =>
    rw [List.scanl_cons, List.dropLast_cons_of_ne_nil (by cases parts <;> simp)] at hway
    rw [List.foldlM_cons]
    cases hget : tree.get? location with
    | none =>
      have hmissing : tree.enter location part = .error .notFound := by rw [enter, hget]
      rw [hmissing]
      exact .inr rfl
    | some node =>
      cases node with
      | file bytes =>
        have hfile := hway location List.mem_cons_self
        rw [fileAt?_eq_some.2 hget] at hfile
        cases hfile
      | directory =>
        rw [enter_of_short (hshort part List.mem_cons_self) hget]
        exact ih (fun next hnext => hshort next (List.mem_cons_of_mem part hnext))
          fun stage hstage => hway stage (List.mem_cons_of_mem _ hstage)

/-- At the end of a clear path, a file stands or nothing. -/
private theorem Clear.get?_eq_none (h : tree.Clear cwd path)
    (hnone : tree.fileAt? (target cwd path) = none) : tree.get? (target cwd path) = none := by
  cases hget : tree.get? (target cwd path) with
  | none => rfl
  | some node =>
    cases node with
    | file bytes =>
      rw [fileAt?_eq_some.2 hget] at hnone
      cases hnone
    | directory => exact absurd hget h.place

/-- Where a clear path leads to nothing, it is read so. -/
theorem Clear.readText_eq (h : tree.Clear cwd path)
    (hnone : tree.fileAt? (target cwd path) = none) :
    tree.readText cwd path = .error .notFound := by
  have hplace := h.get?_eq_none hnone
  have hnode : tree.node cwd path = .error .notFound := by
    have hlocate : (∃ found, tree.locate cwd path = .ok found) ∨
        tree.locate cwd path = .error .notFound := by
      unfold locate
      split
      · exact .inr rfl
      rw [if_neg (by simp [h.usable])]
      exact foldlM_enter_of_clear h.short h.way
    unfold node
    rcases hlocate with ⟨found, hfound⟩ | hmissing
    · obtain rfl := target_eq_of_locate hfound
      simp [hfound, bind, Except.bind, hplace, throw, throwThe, MonadExceptOf.throw]
    · rw [hmissing]
      rfl
  rw [readText, readBytes, hnode]
  rfl

/-! ## What stays clear -/

/-- Parts that could be followed still can when the directories on their way are kept. -/
private theorem foldlM_enter_of_stages {parts : List String} {last : Location}
    (hkeeps : ∀ stage ∈ (parts.scanl follow location).dropLast,
      tree.get? stage = some .directory → other.get? stage = some .directory)
    (h : parts.foldlM tree.enter location = .ok last) :
    parts.foldlM other.enter location = .ok last := by
  induction parts generalizing location with
  | nil => exact h
  | cons part parts ih =>
    rw [List.scanl_cons, List.dropLast_cons_of_ne_nil (by cases parts <;> simp)] at hkeeps
    rw [List.foldlM_cons] at h ⊢
    cases hnext : tree.enter location part with
    | error refusal => rw [hnext] at h; cases h
    | ok next =>
      obtain ⟨hdirectory, rfl⟩ := enter_eq_follow hnext
      have hsame : other.enter location part = .ok (follow location part) := by
        rw [← hnext, enter, enter, hdirectory, hkeeps location List.mem_cons_self hdirectory]
      rw [hnext] at h
      rw [hsame]
      exact ih (fun stage hstage => hkeeps stage (List.mem_cons_of_mem _ hstage)) h

/-- A path that could be followed still can when the directories on its way are kept. -/
theorem locate_of_stages
    (hkeeps : ∀ stage ∈ (stages cwd path).dropLast,
      tree.get? stage = some .directory → other.get? stage = some .directory)
    (h : tree.locate cwd path = .ok location) : other.locate cwd path = .ok location := by
  unfold locate at h ⊢
  split at h
  · cases h
  next hempty =>
    split at h
    · cases h
    next husable => rw [if_neg hempty, if_neg husable, foldlM_enter_of_stages hkeeps h]

/-- A path stays clear when the directories on its way are kept, no file is put there, and nothing
is put at its end. -/
private theorem Clear.of_stages (h : tree.Clear cwd path)
    (hkeeps : ∀ stage ∈ (stages cwd path).dropLast,
      tree.get? stage = some .directory → other.get? stage = some .directory)
    (hway : ∀ stage ∈ (stages cwd path).dropLast,
      tree.fileAt? stage = none → other.fileAt? stage = none)
    (hplace : other.get? (target cwd path) = tree.get? (target cwd path) ∨
      other.get? (target cwd path) = none) : other.Clear cwd path where
  usable := h.usable
  short := h.short
  way stage hstage := hway stage hstage (h.way stage hstage)
  place := by
    rcases hplace with hsame | hnone
    · rw [hsame]
      exact h.place
    · rw [hnone]
      nofun
  reaches hsome := by
    rcases hplace with hsame | hnone
    · rw [hsame] at hsome
      exact locate_of_stages hkeeps (h.reaches hsome)
    · rw [hnone] at hsome
      cases hsome

/-- A path stays clear when no directory on its way is lost. -/
theorem Clear.of_without {start final : Workspace} {lost : Set Location}
    (h : start.files.Clear cwd path) (hwithout : start.Without lost final)
    (hlost : ∀ stage ∈ (stages cwd path).dropLast, stage ∈ lost →
      start.files.get? stage ≠ some .directory) : final.files.Clear cwd path := by
  refine h.of_stages (fun stage hstage hdirectory => ?_)
    (fun stage _ hnone => hwithout.fileAt?_eq_none hnone) (hwithout.get?_eq_or _)
  rw [hwithout.kept stage fun hmem => hlost stage hstage hmem hdirectory, hdirectory]

/-- Making directories along some parts changes nothing that is not on their way. -/
private theorem get?_makeAlong {parts : List String} {stage : Location}
    (h : stage ∉ parts.scanl follow location) :
    (tree.makeAlong location parts).2.get? stage = tree.get? stage := by
  induction parts generalizing tree location with
  | nil => rfl
  | cons part parts ih =>
    rw [List.scanl_cons, List.mem_cons, not_or] at h
    rcases makeAlong_cons_cases tree location part parts with ⟨refusal, hmade⟩ | ⟨-, -, hmade⟩
    · rw [hmade]
    · rw [hmade, ih h.2]
      refine get?_withDirectory_of_ne ?_
      rintro rfl
      exact h.2 (by cases parts <;> simp)

/-- Making a directory and those above it changes nothing that is not on the way to it. -/
theorem get?_makeDirectories {stage : Location} (h : stage ∉ stages cwd path) :
    (tree.makeDirectories cwd path).2.get? stage = tree.get? stage := by
  unfold makeDirectories
  split
  · rfl
  split
  · rfl
  · exact get?_makeAlong h

/-- A path stays clear when directories are made that its end is none of. -/
theorem Clear.makeDirectories (h : tree.Clear cwd path) {dir : String}
    (hplace : target cwd path ∉ stages cwd dir) :
    (tree.makeDirectories cwd dir).2.Clear cwd path :=
  h.of_stages (fun stage _ => tree.keepsDirectories_makeDirectories cwd dir stage)
    (fun stage _ hnone => (tree.fileAt?_makeDirectories cwd dir stage).trans hnone)
    (.inl (get?_makeDirectories hplace))

/-- A path stays clear when a file is written that stands neither on its way nor at its end. -/
theorem Clear.write (h : tree.Clear cwd path) {file : String} {bytes : ByteArray}
    (hwrite : tree.write cwd file bytes = .ok other) (hway : target cwd file ∉ stages cwd path) :
    other.Clear cwd path := by
  obtain ⟨-, -, rfl⟩ := write_eq_ok hwrite
  have hkept {stage : Location} (hstage : stage ∈ stages cwd path) :
      (tree.set (target cwd file) (.file bytes)).get? stage = tree.get? stage := by
    refine get?_set_of_ne _ _ ?_
    rintro rfl
    exact hway hstage
  refine h.of_stages (fun stage hstage hdirectory => ?_) (fun stage hstage hnone => ?_)
    (.inl (hkept (target_mem_stages cwd path)))
  · rw [hkept (List.dropLast_subset _ hstage), hdirectory]
  · rw [fileAt?_congr (hkept (List.dropLast_subset _ hstage)), hnone]

end Files.Tree

namespace Action

open Files

/-- A path stays clear when a text is written to a file that stands neither on its way nor at its
end, in directories that its end is none of. -/
theorem keeps_writeText_clear {cwd : Location} {path base name : String} (hname : IsName name)
    (content : String) (hplace : target cwd path ∉ stages cwd base)
    (hway : target cwd (Path.join base name) ∉ stages cwd path) :
    (writeText (Path.join base name) content).Keeps fun workspace =>
      workspace.cwd = cwd ∧ workspace.files.Clear cwd path := by
  refine .writeText_join hname ?_ ?_
  · rintro parent hstages start ⟨rfl, hclear⟩
    exact ⟨rfl, hclear.makeDirectories (mt (hstages _ _).1 hplace)⟩
  · rintro start files ⟨rfl, hclear⟩ hwrite
    exact ⟨rfl, hclear.write hwrite hway⟩

/-- Where a path is clear, removing a file leaves nothing, and the path is read so. -/
theorem removeFileIfPresent_yields_of_clear {start : Workspace} {path : String}
    (h : start.files.Clear start.cwd path) :
    ∃ present final, (removeFileIfPresent path).Yields start present final ∧
      start.Without {target start.cwd path} final ∧ final.readText path = .error .notFound := by
  obtain ⟨present, final, hremove, hwithout⟩ := removeFileIfPresent_yields fun hsome =>
    h.reaches (Tree.isSome_get?_of_fileAt? hsome)
  have hgone : final.files.get? (target start.cwd path) = none := by
    by_cases hsome : (start.files.fileAt? (target start.cwd path)).isSome = true
    · exact hwithout.gone _ ⟨rfl, hsome⟩
    · rw [hwithout.kept _ fun hmem => hsome hmem.2]
      exact h.get?_eq_none (Option.not_isSome_iff_eq_none.1 hsome)
  have hlost : start.Without {target start.cwd path} final := by
    refine ⟨hwithout.cwd, hwithout.launches, ?_, fun location hne => ?_⟩
    · rintro _ rfl
      exact hgone
    · exact hwithout.kept location fun hmem => hne hmem.1
  have hclear : final.files.Clear start.cwd path := h.of_without hlost fun stage _ hmem => by
    rw [Set.mem_singleton_iff.1 hmem]
    exact h.place
  refine ⟨present, final, hremove, hlost, ?_⟩
  rw [Workspace.readText, hwithout.cwd]
  exact hclear.readText_eq (by rw [Tree.fileAt?, hgone])

end Action

end SnippetCheck
