import SnippetCheck.Proofs.Action
import SnippetCheck.Proofs.Files.Frame

/-!
# What Actions On Files Leave Alone

What an action on files keeps follows from what each change of the tree keeps that it is made of
(`Keeps.writeText`, `Keeps.removeFilesWithExtension` and the like). So each invariant is looked at
for one change of the tree at a time, and never through the actions themselves.

`origin.Agrees location` says of a workspace that, since `origin`, directories have been kept and
the file at `location` has not been touched. Every action that makes directories, writes or removes
files keeps that for locations other than the targets of its paths. It carries over to reading a
text (`Keeps.reads`) and to a file alone (`Keeps.holdsAt`). What may also remove the file keeps what
holds of every file and of none (`keeps_removeDirectoryIfPresent_of_none`). What is not about files
at all, such as the commands that were launched, is kept by each of these actions
(`Workspace.Fileless`).
-/

namespace SnippetCheck

open Files

namespace Workspace

instance : DecidableEq Workspace := fun workspace other =>
  decidable_of_iff (workspace.files = other.files ∧ workspace.cwd = other.cwd ∧
    workspace.launches = other.launches) (by cases workspace; cases other; simp)

/-- Since `origin`, directories have been kept and the file at a location was not touched. -/
structure Agrees (origin : Workspace) (location : Location) (workspace : Workspace) : Prop where
  cwd : workspace.cwd = origin.cwd
  directories : origin.files.KeepsDirectories workspace.files
  file : workspace.files.fileAt? location = origin.files.fileAt? location

/-- A workspace agrees with itself. -/
theorem Agrees.refl (workspace : Workspace) (location : Location) :
    workspace.Agrees location workspace :=
  ⟨rfl, .refl _, rfl⟩

/-- Files that keep directories and a file can take the place of others. -/
theorem Agrees.withFiles {origin workspace : Workspace} {location : Location} {files : Tree}
    (h : origin.Agrees location workspace) (hdirectories : workspace.files.KeepsDirectories files)
    (hfile : files.fileAt? location = workspace.files.fileAt? location) :
    origin.Agrees location { workspace with files } :=
  ⟨h.cwd, h.directories.trans hdirectories, hfile.trans h.file⟩

/-- From a working directory, a path leads to a file of some bytes. -/
def ReadsBytes (cwd : Location) (path : String) (bytes : ByteArray) (workspace : Workspace) :
    Prop :=
  workspace.cwd = cwd ∧ workspace.files.readBytes cwd path = .ok bytes

/-- From a working directory, a path leads to a text. -/
def Reads (cwd : Location) (path text : String) (workspace : Workspace) : Prop :=
  workspace.cwd = cwd ∧ workspace.readText path = .ok text

/-- A path leads to a text just when it leads to the bytes of the text. -/
theorem reads_eq (cwd : Location) (path text : String) :
    Reads cwd path text = ReadsBytes cwd path text.toUTF8 := by
  funext workspace
  rw [Reads, ReadsBytes, Workspace.readText, Tree.readText_eq_ok_iff, eq_iff_iff]
  exact and_congr_right fun hcwd => by rw [hcwd]

/-- The working directory is the given one, and so is the file at a location. -/
def HoldsAt (cwd location : Location) (content : Option ByteArray) (workspace : Workspace) :
    Prop :=
  workspace.cwd = cwd ∧ workspace.files.fileAt? location = content

end Workspace

namespace Action

/-! ## From changes of the tree to actions -/

section Rules

variable {holds : Workspace → Prop}

/-- Making directories keeps what the change of the tree keeps. -/
theorem Keeps.makeDirectories {ε : Type} {error : ε} {path : String}
    (h : ∀ start, holds start →
      holds { start with files := (start.files.makeDirectories start.cwd path).2 }) :
    (Action.makeDirectories path error).Keeps holds :=
  .changeFiles h

/-- Making the directories above a path keeps what making its parent keeps, if it has one. -/
theorem Keeps.makeParents {path : String}
    (h : ∀ parent, Path.parent? path = some parent → ∀ start, holds start →
      holds { start with files := (start.files.makeDirectories start.cwd parent).2 }) :
    (Action.makeParents path).Keeps holds := by
  unfold Action.makeParents
  split
  next parent hparent => exact .makeDirectories (h parent hparent)
  next => exact .pure ()

/-- Writing a text keeps what making the parent of its path and writing the file keep. -/
theorem Keeps.writeText {path content : String}
    (hmake : ∀ parent, Path.parent? path = some parent → ∀ start, holds start →
      holds { start with files := (start.files.makeDirectories start.cwd parent).2 })
    (hwrite : ∀ start files, holds start →
      start.files.write start.cwd path content.toUTF8 = .ok files →
        holds { start with files }) :
    (Action.writeText path content).Keeps holds :=
  (Keeps.makeParents hmake).bind fun _ => .replaceFiles hwrite

/-- Removing a file if there is one keeps what its removal keeps. -/
theorem Keeps.removeFileIfPresent {path : String}
    (h : ∀ start files, holds start → start.files.removeFile start.cwd path = .ok files →
      holds { start with files }) :
    (Action.removeFileIfPresent path).Keeps holds := by
  refine Keeps.get_bind fun start hstart => ?_
  split
  next => exact ((Keeps.replaceFiles h).bind fun _ => .pure true) start hstart
  next => exact hstart

/-- Removing files keeps what the removal of each of them keeps. -/
theorem Keeps.removeFiles {paths : List String}
    (h : ∀ path ∈ paths, ∀ start files, holds start →
      start.files.removeFile start.cwd path = .ok files → holds { start with files }) :
    (Action.removeFiles paths).Keeps holds := by
  induction paths with
  | nil => exact .pure ()
  | cons path paths ih =>
    obtain ⟨hfirst, hrest⟩ := List.forall_mem_cons.1 h
    exact (Keeps.replaceFiles hfirst).bind fun _ => ih hrest

/-- Removing the files with an extension keeps what the removal of each file keeps that is found. -/
theorem Keeps.removeFilesWithExtension {dir extension : String}
    (h : ∀ origin paths, holds origin → origin.filesWithExtension dir extension = .ok paths →
      ∀ path ∈ paths, ∀ start files, holds start →
        start.files.removeFile start.cwd path = .ok files → holds { start with files }) :
    (Action.removeFilesWithExtension dir extension).Keeps holds := by
  refine Keeps.get_bind fun origin horigin => ?_
  split
  next =>
    split
    next => exact horigin
    next paths hpaths =>
      exact ((Keeps.removeFiles (h origin paths horigin hpaths)).bind fun _ => .pure paths.length)
        origin horigin
  next => exact horigin

/-- Removing a directory if there is one keeps what the change of the tree keeps. -/
theorem Keeps.removeDirectoryIfPresent {path : String}
    (h : ∀ start, holds start →
      holds { start with files := (start.files.removeDirectory start.cwd path).2 }) :
    (Action.removeDirectoryIfPresent path).Keeps holds := by
  refine Keeps.get_bind fun start hstart => ?_
  split
  next => exact ((Keeps.changeFiles h).bind fun _ => .pure true) start hstart
  next => exact hstart

end Rules

/-! ## Agreement and reading -/

open Workspace

variable {ε α : Type} {origin : Workspace} {location : Location}

/-- An action that leaves the target of a path alone leaves the bytes that can be read there. -/
theorem Keeps.readsBytes {action : Action ε α} {cwd : Location} {path : String} {bytes : ByteArray}
    (h : ∀ origin : Workspace, origin.cwd = cwd → action.Keeps (origin.Agrees (target cwd path))) :
    action.Keeps (ReadsBytes cwd path bytes) := by
  rintro start ⟨rfl, hread⟩
  have hagrees := h start rfl start (.refl start _)
  exact ⟨hagrees.cwd,
    Tree.readBytes_of_keepsDirectories hagrees.directories hagrees.file hread⟩

/-- An action that leaves the target of a path alone leaves the text that can be read there. -/
theorem Keeps.reads {action : Action ε α} {cwd : Location} {path text : String}
    (h : ∀ origin : Workspace, origin.cwd = cwd → action.Keeps (origin.Agrees (target cwd path))) :
    action.Keeps (Reads cwd path text) := by
  rw [reads_eq]
  exact .readsBytes h

/-- An action that leaves a location alone leaves the file there. -/
theorem Keeps.holdsAt {action : Action ε α} {cwd : Location} {content : Option ByteArray}
    (h : ∀ origin : Workspace, origin.cwd = cwd → action.Keeps (origin.Agrees location)) :
    action.Keeps (HoldsAt cwd location content) := by
  rintro start ⟨rfl, hcontent⟩
  have hagrees := h start rfl start (.refl start location)
  exact ⟨hagrees.cwd, hagrees.file.trans hcontent⟩

/-- An action that leaves a file alone, whatever it holds, keeps what holds of its content. -/
theorem Keeps.of_holdsAt {action : Action ε α} {cwd : Location}
    (h : ∀ content, action.Keeps (HoldsAt cwd location content))
    (property : Option ByteArray → Prop) :
    action.Keeps fun workspace =>
      workspace.cwd = cwd ∧ property (workspace.files.fileAt? location) := by
  rintro start ⟨hcwd, hproperty⟩
  obtain ⟨hcwd', hcontent⟩ := h (start.files.fileAt? location) start ⟨hcwd, rfl⟩
  exact ⟨hcwd', by rwa [hcontent]⟩

/-! ## Making directories and writing -/

/-- Directories that are made touch no file. -/
private theorem agrees_makeDirectories (path : String) (start : Workspace)
    (h : origin.Agrees location start) :
    origin.Agrees location
      { start with files := (start.files.makeDirectories start.cwd path).2 } :=
  h.withFiles (start.files.keepsDirectories_makeDirectories start.cwd path)
    (start.files.fileAt?_makeDirectories start.cwd path location)

/-- Making directories touches no file. -/
theorem keeps_makeDirectories (path : String) (error : ε) :
    (makeDirectories path error).Keeps (origin.Agrees location) :=
  .makeDirectories (agrees_makeDirectories path)

/-- Making the directories above a path touches no file. -/
theorem keeps_makeParents (path : String) :
    (makeParents path).Keeps (origin.Agrees location) :=
  .makeParents fun parent _ => agrees_makeDirectories parent

/-- Writing a text touches no other file. -/
theorem keeps_writeText {path : String} (hne : location ≠ target origin.cwd path)
    (content : String) : (writeText path content).Keeps (origin.Agrees location) := by
  refine .writeText (fun parent _ => agrees_makeDirectories parent)
    fun start files hstart h => ?_
  refine hstart.withFiles (Tree.keepsDirectories_of_write h) (Tree.fileAt?_of_write h ?_)
  rwa [hstart.cwd]

/-- A text that was written can be read, and its bytes are at the target of its path. -/
theorem reads_of_writeText {path content : String} {start final : Workspace} {value : Unit}
    (h : (writeText path content).Yields start value final) :
    final.cwd = start.cwd ∧ final.readText path = .ok content ∧
      final.files.fileAt? (target start.cwd path) = some content.toUTF8 := by
  obtain ⟨_, between, hparents, hwrite⟩ := yields_bind.1 h
  have hagrees := (keeps_makeParents path).of_yields hparents (.refl start (target start.cwd path))
  obtain ⟨files, hfiles, rfl⟩ := yields_replaceFiles.1 hwrite
  refine ⟨hagrees.cwd, Tree.readText_of_write hfiles, ?_⟩
  rw [← hagrees.cwd]
  exact Tree.fileAt?_target_of_write hfiles

/-- Where one text can be written, all others can. -/
theorem exists_writeText_of_yields {path content : String} {start final : Workspace}
    {value : Unit} (h : (writeText path content).Yields start value final) (other : String) :
    ∃ done last, (writeText path other).Yields start done last := by
  obtain ⟨made, between, hparents, hwrite⟩ := yields_bind.1 h
  obtain ⟨files, hfiles, -⟩ := yields_replaceFiles.1 hwrite
  obtain ⟨last, hlast⟩ := Tree.exists_write_of_write hfiles other.toUTF8
  exact ⟨(), _, yields_bind.2 ⟨made, between, hparents, yields_replaceFiles.2 ⟨last, hlast, rfl⟩⟩⟩

/-- Writing a text keeps what holds of the file at the target and of the text. -/
theorem keeps_writeText_of_content {cwd : Location} {path content : String}
    {property : Option ByteArray → Prop} (hcontent : property (some content.toUTF8)) :
    (writeText path content).Keeps fun workspace =>
      workspace.cwd = cwd ∧ property (workspace.files.fileAt? (target cwd path)) := by
  refine Keeps.bind (Keeps.of_holdsAt (fun _ => Keeps.holdsAt fun _ _ => keeps_makeParents path)
    property) fun _ => Keeps.replaceFiles fun start files hstart h => ⟨hstart.1, ?_⟩
  rw [← hstart.1]
  dsimp only
  rw [Tree.fileAt?_target_of_write h]
  exact hcontent

/-! ## Removing -/

/-- The removal of a file touches no other. -/
private theorem agrees_of_removeFile {path : String} (hne : location ≠ target origin.cwd path)
    {start : Workspace} {files : Tree} (hstart : origin.Agrees location start)
    (h : start.files.removeFile start.cwd path = .ok files) :
    origin.Agrees location { start with files } := by
  refine hstart.withFiles (Tree.keepsDirectories_of_removeFile h) (Tree.fileAt?_of_removeFile h ?_)
  rwa [hstart.cwd]

/-- Removing a file touches no other. -/
theorem keeps_removeFileIfPresent {path : String} (hne : location ≠ target origin.cwd path) :
    (removeFileIfPresent path).Keeps (origin.Agrees location) :=
  .removeFileIfPresent fun _ _ => agrees_of_removeFile hne

/-- Removing a file keeps what holds of every file and of none. -/
theorem keeps_removeFileIfPresent_of_none {cwd : Location} (path : String)
    {property : Option ByteArray → Prop} (hnone : property none) :
    (removeFileIfPresent path).Keeps fun workspace =>
      workspace.cwd = cwd ∧ property (workspace.files.fileAt? location) := by
  refine .removeFileIfPresent fun start files hstart h => ⟨hstart.1, ?_⟩
  by_cases heq : location = target start.cwd path
  · rw [heq, Tree.fileAt?_target_of_removeFile h]
    exact hnone
  · rw [Tree.fileAt?_of_removeFile h heq]
    exact hstart.2

/-- Where a file was removed if there was one, none can be read. -/
theorem readText_ne_ok_of_removeFileIfPresent {path text : String} {present : Bool}
    {start final : Workspace} (h : (removeFileIfPresent path).Yields start present final) :
    final.readText path ≠ .ok text := by
  intro hread
  obtain ⟨hlocate, bytes, hfile, -⟩ := Tree.readText_eq_ok.1 hread
  have h := yields_get_bind.1 h
  split at h
  next =>
    obtain ⟨_, removed, hremove, hvalue⟩ := yields_bind.1 h
    obtain ⟨rfl, rfl⟩ := yields_pure.1 hvalue
    obtain ⟨files, hfiles, rfl⟩ := yields_replaceFiles.1 hremove
    rw [Tree.fileAt?_target_of_removeFile hfiles] at hfile
    cases hfile
  next hpresent =>
    obtain ⟨rfl, rfl⟩ := yields_pure.1 h
    -- a file that can be read would have been removed
    have hnode := Tree.node_eq_ok.2 ⟨hlocate, Tree.fileAt?_eq_some.1 hfile⟩
    exact hpresent (by simp [isFile, Tree.isFile, hnode])

/-- The paths that are found in a directory have the wanted extension. -/
theorem extension?_of_mem_filesWithExtension {workspace : Workspace} {dir extension : String}
    {paths : List String} (h : workspace.filesWithExtension dir extension = .ok paths)
    {path : String} (hpath : path ∈ paths) : Path.extension? path = some extension := by
  unfold filesWithExtension at h
  cases hlocate : workspace.files.locate workspace.cwd dir with
  | error refusal => simp [bind, Except.bind, hlocate] at h
  | ok found =>
    simp only [bind, Except.bind, hlocate] at h
    split at h
    next => cases h
    next => cases h
    next =>
      cases h
      have hfilter := (List.mem_filter.1 hpath).2
      simp only [Bool.and_eq_true, decide_eq_true_eq] at hfilter
      exact hfilter.2

/-- Removing the files with an extension touches none with another one. -/
theorem keeps_removeFilesWithExtension {dir extension : String}
    (hne : extensionAt? location ≠ some extension) :
    (removeFilesWithExtension dir extension).Keeps (origin.Agrees location) := by
  refine .removeFilesWithExtension fun _ paths _ hpaths path hpath _ _ =>
    agrees_of_removeFile fun heq => hne ?_
  rw [heq]
  exact extensionAt?_target (extension?_of_mem_filesWithExtension hpaths hpath) _

/-- Removing a directory keeps what holds of every file and of none. -/
theorem keeps_removeDirectoryIfPresent_of_none {cwd : Location} (path : String)
    {property : Option ByteArray → Prop} (hnone : property none) :
    (removeDirectoryIfPresent path).Keeps fun workspace =>
      workspace.cwd = cwd ∧ property (workspace.files.fileAt? location) := by
  refine .removeDirectoryIfPresent fun start hstart => ⟨hstart.1, ?_⟩
  dsimp only
  rcases start.files.fileAt?_removeDirectory start.cwd path location with hsame | hgone
  · rw [hsame]
    exact hstart.2
  · rw [hgone]
    exact hnone

/-! ## What is not about files -/

end Action

/-- A property of workspaces that is not about their files. -/
def Workspace.Fileless (holds : Workspace → Prop) : Prop :=
  ∀ workspace files, holds workspace → holds { workspace with files }

/-- The working directory and the commands that were launched are not files. -/
theorem Workspace.fileless_cwd_launches (cwd : Location) (launches : List Command) :
    Fileless fun workspace => workspace.cwd = cwd ∧ workspace.launches = launches :=
  fun _ _ h => h

namespace Workspace.Fileless

open Action

variable {holds : Workspace → Prop}

/-- Making directories keeps what is not about files. -/
theorem makeDirectories {ε : Type} (h : Fileless holds) (path : String) (error : ε) :
    (Action.makeDirectories path error).Keeps holds :=
  .makeDirectories fun start hstart => h start _ hstart

/-- Writing a text keeps what is not about files. -/
theorem writeText (h : Fileless holds) (path content : String) :
    (Action.writeText path content).Keeps holds :=
  .writeText (fun _ _ start hstart => h start _ hstart) fun start files hstart _ =>
    h start files hstart

/-- Removing a file keeps what is not about files. -/
theorem removeFileIfPresent (h : Fileless holds) (path : String) :
    (Action.removeFileIfPresent path).Keeps holds :=
  .removeFileIfPresent fun start files hstart _ => h start files hstart

/-- Removing the files with an extension keeps what is not about files. -/
theorem removeFilesWithExtension (h : Fileless holds) (dir extension : String) :
    (Action.removeFilesWithExtension dir extension).Keeps holds :=
  .removeFilesWithExtension fun _ _ _ _ _ _ start files hstart _ => h start files hstart

/-- Removing a directory keeps what is not about files. -/
theorem removeDirectoryIfPresent (h : Fileless holds) (path : String) :
    (Action.removeDirectoryIfPresent path).Keeps holds :=
  .removeDirectoryIfPresent fun start hstart => h start _ hstart

end Workspace.Fileless

namespace Action

/-- Writing a text launches nothing. -/
theorem launches_of_writeText {path content : String} {start final : Workspace} {value : Unit}
    (h : (writeText path content).Yields start value final) : final.launches = start.launches :=
  ((Workspace.fileless_cwd_launches start.cwd start.launches).writeText path content |>.of_yields h
    ⟨rfl, rfl⟩).2

end Action

end SnippetCheck
