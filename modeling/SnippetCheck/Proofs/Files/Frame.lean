import SnippetCheck.Proofs.Files.Target

/-!
# What Changes Of Files Leave Alone

Every change of a tree touches the files at the target of its path or below it, and no other:
`fileAt?_of_write`, `fileAt?_makeDirectories`, `fileAt?_of_removeFile` and
`fileAt?_removeDirectory`. All but the last also leave every directory in its place
(`KeepsDirectories`), so that paths that could be followed before still can, and lead to the same
bytes unless the file itself was touched (`readBytes_of_keepsDirectories`).
-/

namespace SnippetCheck.Files

/-- The bytes of a text are those of this text. -/
theorem fromUTF8?_toUTF8 (text : String) : String.fromUTF8? text.toUTF8 = some text :=
  dif_pos text.isValidUTF8

instance : DecidableEq Node
  | .file bytes, .file other =>
    decidable_of_iff (bytes.data = other.data) (by simp [ByteArray.ext_iff])
  | .file _, .directory => isFalse nofun
  | .directory, .file _ => isFalse nofun
  | .directory, .directory => isTrue rfl

namespace Tree

instance : DecidableEq Tree := fun tree other =>
  decidable_of_iff (tree.entries = other.entries) (by cases tree; cases other; simp)

/-- The bytes of the file at a location. -/
def fileAt? (tree : Tree) (location : Location) : Option ByteArray :=
  match tree.get? location with
  | some (.file bytes) => some bytes
  | _ => none

/-- What was a directory still is one. -/
def KeepsDirectories (before after : Tree) : Prop :=
  ∀ location, before.get? location = some .directory → after.get? location = some .directory

/-- A tree keeps its own directories. -/
theorem KeepsDirectories.refl (tree : Tree) : tree.KeepsDirectories tree :=
  fun _ h => h

/-- Directories that are kept twice are kept. -/
theorem KeepsDirectories.trans {first second third : Tree} (h : first.KeepsDirectories second)
    (h' : second.KeepsDirectories third) : first.KeepsDirectories third :=
  fun location hfirst => h' location (h location hfirst)

/-- The file at a location is the node there. -/
theorem fileAt?_eq_some {tree : Tree} {location : Location} {bytes : ByteArray} :
    tree.fileAt? location = some bytes ↔ tree.get? location = some (.file bytes) := by
  unfold fileAt?
  split
  next found hfound => simp [hfound]
  next hother => simpa using fun heq => hother bytes heq

/-- Where a directory stands, there is no file. -/
theorem fileAt?_of_directory {tree : Tree} {location : Location}
    (h : tree.get? location = some .directory) : tree.fileAt? location = none := by
  rw [fileAt?, h]

/-- Where a file stands, there is no directory. -/
theorem get?_ne_directory {tree : Tree} {location : Location}
    (h : (tree.fileAt? location).isSome = true) : tree.get? location ≠ some .directory := by
  intro hdirectory
  rw [fileAt?_of_directory hdirectory] at h
  cases h

/-- Trees with the same nodes at a location have the same file there. -/
theorem fileAt?_congr {tree other : Tree} {location : Location}
    (h : tree.get? location = other.get? location) :
    tree.fileAt? location = other.fileAt? location := by
  rw [fileAt?, fileAt?, h]

/-! ## Reading -/

/-- Parts that could be followed still can when directories are kept. -/
private theorem foldlM_enter_of_keepsDirectories {before after : Tree}
    (hkeeps : before.KeepsDirectories after) {parts : List String} {current last : Location}
    (h : parts.foldlM before.enter current = .ok last) :
    parts.foldlM after.enter current = .ok last := by
  induction parts generalizing current with
  | nil => exact h
  | cons part parts ih =>
    rw [List.foldlM_cons] at h ⊢
    cases hnext : before.enter current part with
    | error refusal => rw [hnext] at h; cases h
    | ok next =>
      have hdirectory := (enter_eq_follow hnext).1
      have hsame : after.enter current part = .ok next := by
        rw [← hnext, enter, enter, hdirectory, hkeeps current hdirectory]
      rw [hnext] at h
      rw [hsame]
      exact ih h

/-- A path that could be followed still can when directories are kept. -/
theorem locate_of_keepsDirectories {before after : Tree} (hkeeps : before.KeepsDirectories after)
    {cwd location : Location} {path : String} (h : before.locate cwd path = .ok location) :
    after.locate cwd path = .ok location := by
  unfold locate at h ⊢
  split at h
  · cases h
  next hempty =>
    split at h
    · cases h
    next husable =>
      rw [if_neg hempty, if_neg husable, foldlM_enter_of_keepsDirectories hkeeps h]

/-- What stands where a path leads to is what stands at its target. -/
theorem node_eq_ok {tree : Tree} {cwd : Location} {path : String} {node : Node} :
    tree.node cwd path = .ok node ↔
      tree.locate cwd path = .ok (target cwd path) ∧ tree.get? (target cwd path) = some node := by
  unfold Tree.node
  cases hlocate : tree.locate cwd path with
  | error refusal => simp [bind, Except.bind]
  | ok location =>
    cases target_eq_of_locate hlocate
    cases hget : tree.get? (target cwd path) with
    | none => simp [bind, Except.bind, hget, throw, throwThe, MonadExceptOf.throw]
    | some other => simp [bind, Except.bind, hget, pure, Except.pure]

/-- Bytes are read from the file at the target of their path. -/
theorem readBytes_eq_ok {tree : Tree} {cwd : Location} {path : String} {bytes : ByteArray} :
    tree.readBytes cwd path = .ok bytes ↔
      tree.locate cwd path = .ok (target cwd path) ∧
        tree.fileAt? (target cwd path) = some bytes := by
  rw [fileAt?_eq_some, ← node_eq_ok, readBytes]
  rcases tree.node cwd path with refusal | other | _
  · simp [bind, Except.bind]
  · simp [bind, Except.bind, pure, Except.pure]
  · simp [bind, Except.bind, throw, throwThe, MonadExceptOf.throw]

/-- A text is read from the file at the target of its path. -/
theorem readText_eq_ok {tree : Tree} {cwd : Location} {path text : String} :
    tree.readText cwd path = .ok text ↔
      tree.locate cwd path = .ok (target cwd path) ∧ ∃ bytes,
        tree.fileAt? (target cwd path) = some bytes ∧ String.fromUTF8? bytes = some text := by
  have hbytes : tree.readText cwd path = .ok text ↔
      ∃ bytes, tree.readBytes cwd path = .ok bytes ∧ String.fromUTF8? bytes = some text := by
    unfold readText
    rcases tree.readBytes cwd path with refusal | bytes
    · simp [bind, Except.bind]
    · cases htext : String.fromUTF8? bytes with
      | none => simp [bind, Except.bind, htext, throw, throwThe, MonadExceptOf.throw]
      | some found => simp [bind, Except.bind, pure, Except.pure, htext]
  simp only [hbytes, readBytes_eq_ok]
  constructor
  · rintro ⟨bytes, ⟨hlocate, hfile⟩, htext⟩
    exact ⟨hlocate, bytes, hfile, htext⟩
  · rintro ⟨hlocate, bytes, hfile, htext⟩
    exact ⟨bytes, ⟨hlocate, hfile⟩, htext⟩

/-- The bytes that are read as a text are the bytes of this text. -/
theorem eq_toUTF8_of_fromUTF8? {bytes : ByteArray} {text : String}
    (h : String.fromUTF8? bytes = some text) : bytes = text.toUTF8 := by
  unfold String.fromUTF8? at h
  split at h
  next => rw [← Option.some.inj h]; rfl
  next => cases h

/-- Where a text is read, its bytes stand. -/
theorem fileAt?_of_readText {tree : Tree} {cwd : Location} {path text : String}
    (h : tree.readText cwd path = .ok text) :
    tree.fileAt? (target cwd path) = some text.toUTF8 := by
  obtain ⟨-, bytes, hfile, hbytes⟩ := readText_eq_ok.1 h
  rw [hfile, eq_toUTF8_of_fromUTF8? hbytes]

/-- A text is read where its bytes are. -/
theorem readText_eq_ok_iff {tree : Tree} {cwd : Location} {path text : String} :
    tree.readText cwd path = .ok text ↔ tree.readBytes cwd path = .ok text.toUTF8 := by
  rw [readText_eq_ok, readBytes_eq_ok]
  refine and_congr_right fun _ => ⟨?_, fun hfile => ⟨_, hfile, fromUTF8?_toUTF8 text⟩⟩
  rintro ⟨bytes, hfile, htext⟩
  rw [hfile, eq_toUTF8_of_fromUTF8? htext]

/-- A file can still be read when directories are kept and the file is not touched. -/
theorem readBytes_of_keepsDirectories {before after : Tree}
    (hkeeps : before.KeepsDirectories after) {cwd : Location} {path : String} {bytes : ByteArray}
    (hfile : after.fileAt? (target cwd path) = before.fileAt? (target cwd path))
    (h : before.readBytes cwd path = .ok bytes) : after.readBytes cwd path = .ok bytes := by
  rw [readBytes_eq_ok] at h ⊢
  rw [hfile]
  exact ⟨locate_of_keepsDirectories hkeeps h.1, h.2⟩

/-! ## Writing -/

/-- A file is written at the target of its path, where no directory stands. -/
theorem write_eq_ok {tree after : Tree} {cwd : Location} {path : String} {bytes : ByteArray}
    (h : tree.write cwd path bytes = .ok after) :
    tree.locate cwd path = .ok (target cwd path) ∧
      tree.get? (target cwd path) ≠ some .directory ∧
      after = tree.set (target cwd path) (.file bytes) := by
  unfold write at h
  cases hlocate : tree.locate cwd path with
  | error refusal => simp [bind, Except.bind, hlocate] at h
  | ok location =>
    cases target_eq_of_locate hlocate
    simp only [bind, Except.bind, hlocate] at h
    split at h
    next => cases h
    next hnode => exact ⟨rfl, hnode, (Except.ok.inj h).symm⟩

/-- The root is a directory in every tree. -/
theorem ne_nil_of_get?_ne_directory {tree : Tree} {location : Location}
    (h : tree.get? location ≠ some .directory) : location ≠ [] := by
  rintro rfl
  exact h rfl

/-- A node that takes the place of no directory leaves directories where they are. -/
theorem keepsDirectories_set {tree : Tree} {location : Location} (node : Node)
    (h : tree.get? location ≠ some .directory) :
    tree.KeepsDirectories (tree.set location node) := by
  intro other hother
  have hne : other ≠ location := by
    rintro rfl
    exact h hother
  rw [get?_set_of_ne tree node hne, hother]

/-- Writing a file leaves directories where they are. -/
theorem keepsDirectories_of_write {tree after : Tree} {cwd : Location} {path : String}
    {bytes : ByteArray} (h : tree.write cwd path bytes = .ok after) :
    tree.KeepsDirectories after := by
  obtain ⟨-, hnode, rfl⟩ := write_eq_ok h
  exact keepsDirectories_set _ hnode

/-- Writing a file touches no other. -/
theorem fileAt?_of_write {tree after : Tree} {cwd location : Location} {path : String}
    {bytes : ByteArray} (h : tree.write cwd path bytes = .ok after)
    (hne : location ≠ target cwd path) : after.fileAt? location = tree.fileAt? location := by
  obtain ⟨-, -, rfl⟩ := write_eq_ok h
  exact fileAt?_congr (get?_set_of_ne tree _ hne)

/-- A file that was written is there. -/
theorem fileAt?_target_of_write {tree after : Tree} {cwd : Location} {path : String}
    {bytes : ByteArray} (h : tree.write cwd path bytes = .ok after) :
    after.fileAt? (target cwd path) = some bytes := by
  obtain ⟨-, hnode, rfl⟩ := write_eq_ok h
  rw [fileAt?_eq_some, get?_set_self _ _ (ne_nil_of_get?_ne_directory hnode)]

/-- Where some bytes can be written, all others can. -/
theorem exists_write_of_write {tree after : Tree} {cwd : Location} {path : String}
    {bytes : ByteArray} (h : tree.write cwd path bytes = .ok after) (other : ByteArray) :
    ∃ last, tree.write cwd path other = .ok last := by
  obtain ⟨hlocate, hnode, -⟩ := write_eq_ok h
  refine ⟨tree.set (target cwd path) (.file other), ?_⟩
  simp only [write, hlocate, bind, Except.bind]
  rfl

/-- A text that was written is read back. -/
theorem readText_of_write {tree after : Tree} {cwd : Location} {path text : String}
    (h : tree.write cwd path text.toUTF8 = .ok after) : after.readText cwd path = .ok text := by
  rw [readText_eq_ok]
  refine ⟨?_, text.toUTF8, fileAt?_target_of_write h, ?_⟩
  · exact locate_of_keepsDirectories (keepsDirectories_of_write h) (write_eq_ok h).1
  · exact fromUTF8?_toUTF8 text

/-! ## Making directories -/

/-- Making directories along some parts leaves directories where they are and touches no
file. -/
theorem makeAlong_keeps (tree : Tree) (location : Location) (parts : List String) :
    tree.KeepsDirectories (tree.makeAlong location parts).2 ∧
      ∀ other, (tree.makeAlong location parts).2.fileAt? other = tree.fileAt? other := by
  induction parts generalizing tree location with
  | nil => exact ⟨.refl tree, fun _ => rfl⟩
  | cons part parts ih =>
    unfold makeAlong
    split
    next => exact ⟨.refl tree, fun _ => rfl⟩
    next next' _ =>
      split
      next => exact ih tree next'
      next => exact ⟨.refl tree, fun _ => rfl⟩
      next hnone =>
        -- a directory is put where nothing was, and the others come below it
        have hfree : tree.get? next' ≠ some .directory := by simp [hnone]
        obtain ⟨hdirectories, hfiles⟩ := ih (tree.set next' .directory) next'
        refine ⟨(keepsDirectories_set .directory hfree).trans hdirectories, fun other => ?_⟩
        rw [hfiles other]
        by_cases hother : other = next'
        · subst hother
          rw [fileAt?_of_directory (get?_set_self tree _ (ne_nil_of_get?_ne_directory hfree)),
            fileAt?, hnone]
        · exact fileAt?_congr (get?_set_of_ne tree _ hother)

/-- Making directories leaves directories where they are. -/
theorem keepsDirectories_makeDirectories (tree : Tree) (cwd : Location) (path : String) :
    tree.KeepsDirectories (tree.makeDirectories cwd path).2 := by
  unfold makeDirectories
  split
  · exact .refl tree
  split
  · exact .refl tree
  · exact (makeAlong_keeps tree _ _).1

/-- Making directories touches no file. -/
theorem fileAt?_makeDirectories (tree : Tree) (cwd : Location) (path : String)
    (location : Location) :
    (tree.makeDirectories cwd path).2.fileAt? location = tree.fileAt? location := by
  unfold makeDirectories
  split
  · rfl
  split
  · rfl
  · exact (makeAlong_keeps tree _ _).2 location

/-! ## Removing -/

/-- A file is removed from the target of its path. -/
theorem removeFile_eq_ok {tree after : Tree} {cwd : Location} {path : String}
    (h : tree.removeFile cwd path = .ok after) :
    (tree.fileAt? (target cwd path)).isSome ∧ after = tree.erase (target cwd path) := by
  unfold removeFile at h
  cases hlocate : tree.locate cwd path with
  | error refusal => simp [bind, Except.bind, hlocate] at h
  | ok location =>
    cases target_eq_of_locate hlocate
    simp only [bind, Except.bind, hlocate] at h
    split at h
    next bytes hget => exact ⟨by rw [fileAt?, hget]; rfl, (Except.ok.inj h).symm⟩
    next => cases h
    next => cases h

/-- Removing a file leaves directories where they are. -/
theorem keepsDirectories_of_removeFile {tree after : Tree} {cwd : Location} {path : String}
    (h : tree.removeFile cwd path = .ok after) : tree.KeepsDirectories after := by
  obtain ⟨hsome, rfl⟩ := removeFile_eq_ok h
  intro location hlocation
  have hne : location ≠ target cwd path := by
    rintro rfl
    exact get?_ne_directory hsome hlocation
  simp [erase, get?_eraseIf, hne, hlocation]

/-- Removing a file touches no other. -/
theorem fileAt?_of_removeFile {tree after : Tree} {cwd location : Location} {path : String}
    (h : tree.removeFile cwd path = .ok after) (hne : location ≠ target cwd path) :
    after.fileAt? location = tree.fileAt? location := by
  obtain ⟨-, rfl⟩ := removeFile_eq_ok h
  by_cases hroot : location = []
  · subst hroot
    rfl
  · exact fileAt?_congr (by simp [erase, get?_eraseIf, hne, hroot])

/-- A file that was removed is not there. -/
theorem fileAt?_target_of_removeFile {tree after : Tree} {cwd : Location} {path : String}
    (h : tree.removeFile cwd path = .ok after) : after.fileAt? (target cwd path) = none := by
  obtain ⟨-, rfl⟩ := removeFile_eq_ok h
  by_cases hroot : target cwd path = []
  · rw [hroot]
    rfl
  · simp [fileAt?, erase, get?_eraseIf, hroot]

/-- Erasing leaves a file as it was, or none. -/
private theorem fileAt?_eraseIf (tree : Tree) (condition : Location → Bool)
    (location : Location) :
    (tree.eraseIf condition).fileAt? location = tree.fileAt? location ∨
      (tree.eraseIf condition).fileAt? location = none := by
  by_cases hroot : location = []
  · subst hroot
    exact .inl rfl
  by_cases hcondition : condition location = true
  · exact .inr (by simp [fileAt?, get?_eraseIf, hroot, hcondition])
  · exact .inl (fileAt?_congr (by simp [get?_eraseIf, hroot, hcondition]))

/-- Removing a directory leaves a file as it was, or none. -/
theorem fileAt?_removeDirectory (tree : Tree) (cwd : Location) (path : String)
    (location : Location) :
    (tree.removeDirectory cwd path).2.fileAt? location = tree.fileAt? location ∨
      (tree.removeDirectory cwd path).2.fileAt? location = none := by
  unfold removeDirectory
  split
  next => exact .inl rfl
  next found _ =>
    split
    next => exact .inl rfl
    next => exact .inl rfl
    next =>
      split
      · exact fileAt?_eraseIf _ _ _
      · exact fileAt?_eraseIf _ _ _

end Tree

end SnippetCheck.Files
