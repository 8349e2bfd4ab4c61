import SnippetCheck.Proofs.Files.Alike
import SnippetCheck.Proofs.Files.Removal

/-!
# Actions In Tandem

One action is carried out from two workspaces. `action.Tandem before same after failed` says that,
whenever `before` relates the two, it succeeds from both or fails from both: with values that
`same` relates and workspaces that `after` relates, or with one error and workspaces that `failed`
relates. `Tandem.bind` puts a sequence together. In workspaces that are alike up to some files and
directories (`Workspace.Alike`), making directories, writing and removing go in tandem
(`tandem_makeDirectories`, `tandem_writeText`, `tandem_removeFilesWithExtension`,
`tandem_removeDirectoryIfPresent`), and so do launches of what does not see these
(`tandem_launch`).
-/

namespace SnippetCheck

open Files

namespace Action

variable {ε δ α β : Type} {before between after failed : Workspace → Workspace → Prop}

/-- Two actions end alike: with values that are the same in a way and workspaces that are related,
or with one error and workspaces that are related in another way. -/
inductive EndAlike (same : α → α → Prop) (after failed : Workspace → Workspace → Prop) :
    Except ε α × Workspace → Except ε α × Workspace → Prop
  | ok {value other : α} {final final' : Workspace} (hsame : same value other)
    (hafter : after final final') :
    EndAlike same after failed (.ok value, final) (.ok other, final')
  | error {error : ε} {final final' : Workspace} (hfailed : failed final final') :
    EndAlike same after failed (.error error, final) (.error error, final')

/-- From related workspaces, the action ends alike. -/
def Tandem (action : Action ε α) (before : Workspace → Workspace → Prop) (same : α → α → Prop)
    (after failed : Workspace → Workspace → Prop) : Prop :=
  ∀ start other, before start other →
    EndAlike same after failed (action.exec start) (action.exec other)

/-- What holds of both ends in general may be added to what relates them. -/
theorem EndAlike.imp {same same' : α → α → Prop}
    {after' failed' : Workspace → Workspace → Prop} {end₁ end₂ : Except ε α × Workspace}
    (h : EndAlike same after failed end₁ end₂) (hsame : ∀ value other, same value other →
      same' value other) (hafter : ∀ final final', after final final' → after' final final')
    (hfailed : ∀ final final', failed final final' → failed' final final') :
    EndAlike same' after' failed' end₁ end₂ := by
  cases h with
  | ok h₁ h₂ => exact .ok (hsame _ _ h₁) (hafter _ _ h₂)
  | error h => exact .error (hfailed _ _ h)

/-- Actions that end alike have the same result, and leave workspaces that are related. -/
theorem EndAlike.result_eq {ended ended' : Except ε α × Workspace}
    (h : EndAlike Eq after after ended ended') : ended'.1 = ended.1 ∧ after ended.2 ended'.2 := by
  cases h with
  | ok hsame hafter => exact ⟨by rw [hsame], hafter⟩
  | error hafter => exact ⟨rfl, hafter⟩

/-- What an action keeps of the one start and of the other holds at their ends. -/
theorem EndAlike.and_keeps {same : α → α → Prop} {action : Action ε α}
    {holds holds' : Workspace → Prop} {start other : Workspace}
    (h : EndAlike same after failed (action.exec start) (action.exec other))
    (hkeeps : action.Keeps holds) (hkeeps' : action.Keeps holds') (hstart : holds start)
    (hother : holds' other) :
    EndAlike same (fun final final' => after final final' ∧ holds final ∧ holds' final') failed
      (action.exec start) (action.exec other) := by
  have hfinal := hkeeps start hstart
  have hfinal' := hkeeps' other hother
  rcases hexec : action.exec start with ⟨result, final⟩
  rcases hexec' : action.exec other with ⟨result', final'⟩
  rw [hexec, hexec'] at h
  rw [hexec] at hfinal
  rw [hexec'] at hfinal'
  cases h with
  | ok h₁ h₂ => exact .ok h₁ ⟨h₂, hfinal, hfinal'⟩
  | error h => exact .error h

/-- What holds of every value that an action can yield holds of the one that it ends with. -/
theorem EndAlike.and_yields {same : α → α → Prop} {good : α → Prop} {action : Action ε α}
    {start : Workspace} {ending : Except ε α × Workspace}
    (h : EndAlike same after failed (action.exec start) ending)
    (hgood : ∀ value final, action.Yields start value final → good value) :
    EndAlike (fun value other => same value other ∧ good value) after failed (action.exec start)
      ending := by
  rcases hexec : action.exec start with ⟨result, final⟩
  rw [hexec] at h
  cases h with
  | ok h₁ h₂ => exact .ok ⟨h₁, hgood _ _ hexec⟩ h₂
  | error h => exact .error h

/-- Describing failures anew, two actions still end alike. -/
theorem EndAlike.describing {same : α → α → Prop} {action : Action ε α} {start other : Workspace}
    (h : EndAlike same after failed (action.exec start) (action.exec other)) (describe : ε → δ) :
    EndAlike same after failed ((action.describing describe).exec start)
      ((action.describing describe).exec other) := by
  rw [exec_describing, exec_describing]
  rcases hexec : action.exec start with ⟨result, final⟩
  rcases hexec' : action.exec other with ⟨result', final'⟩
  rw [hexec, hexec'] at h
  cases h with
  | ok h₁ h₂ => exact .ok h₁ h₂
  | error h => exact .error h

/-- When the first parts of two sequences end alike, and the rests do from there, the sequences
do. -/
theorem EndAlike.bind {same : α → α → Prop} {same' : β → β → Prop} {action action' : Action ε α}
    {next next' : α → Action ε β} {start other : Workspace}
    (h : EndAlike same between failed (action.exec start) (action'.exec other))
    (hnext : ∀ value value' middle middle', same value value' → between middle middle' →
      EndAlike same' after failed ((next value).exec middle) ((next' value').exec middle')) :
    EndAlike same' after failed ((action >>= next).exec start)
      ((action' >>= next').exec other) := by
  rw [exec_bind, exec_bind]
  rcases hexec : action.exec start with ⟨result, middle⟩
  rcases hexec' : action'.exec other with ⟨result', middle'⟩
  rw [hexec, hexec'] at h
  cases h with
  | ok h₁ h₂ => exact hnext _ _ _ _ h₁ h₂
  | error h => exact .error h

namespace Tandem

variable {action : Action ε α} {same : α → α → Prop} {same' : β → β → Prop}

/-- A sequence goes in tandem when its parts do. -/
theorem bind {next : α → Action ε β} (h : action.Tandem before Eq between failed)
    (hnext : ∀ value, (next value).Tandem between same' after failed) :
    (action >>= next).Tandem before same' after failed := by
  intro start other hbefore
  refine (h start other hbefore).bind ?_
  rintro value _ middle middle' rfl hmiddle
  exact hnext value middle middle' hmiddle

/-- A value that is not used need not be the same. -/
theorem bind_const {next : Action ε β} (h : action.Tandem before same between failed)
    (hnext : next.Tandem between same' after failed) :
    (action >>= fun _ => next).Tandem before same' after failed :=
  fun start other hbefore => (h start other hbefore).bind
    fun _ _ middle middle' _ hmiddle => hnext middle middle' hmiddle

/-- A value that is returned is the same. -/
theorem pure (value : α) : (Pure.pure value : Action ε α).Tandem before Eq before failed :=
  fun _ _ hbefore => .ok rfl hbefore

/-- An error that is thrown is the same. -/
theorem throw (error : ε) (h : ∀ start other, before start other → failed start other) :
    (MonadExcept.throw error : Action ε α).Tandem before same after failed :=
  fun start other hbefore => .error (h start other hbefore)

/-- A result that is lifted is the same. -/
theorem lift (result : Except ε α) (h : ∀ start other, before start other → failed start other) :
    (liftExcept result : Action ε α).Tandem before Eq before failed := by
  intro start other hbefore
  rw [exec_liftExcept, exec_liftExcept]
  cases result with
  | error error => exact .error (h start other hbefore)
  | ok value => exact .ok rfl hbefore

/-- Describing failures anew keeps actions in tandem. -/
theorem describing (describe : ε → δ) (h : action.Tandem before same after failed) :
    (action.describing describe).Tandem before same after failed :=
  fun start other hbefore => (h start other hbefore).describing describe

/-- What relates workspaces may be weakened afterwards, and strengthened before. -/
theorem imp {before' after' : Workspace → Workspace → Prop}
    (h : action.Tandem before same after failed)
    (hbefore : ∀ start other, before' start other → before start other)
    (hafter : ∀ final final', after final final' → after' final final') :
    action.Tandem before' same after' failed :=
  fun start other hstart => (h start other (hbefore start other hstart)).imp (fun _ _ h => h)
    hafter fun _ _ h => h

end Tandem

end Action

/-! ## Workspaces that are alike -/

/-- From two workspaces, the same commands have been launched. -/
def Workspace.InStep (origin origin' workspace other : Workspace) : Prop :=
  ∃ launched, workspace.launches = origin.launches ++ launched ∧
    other.launches = origin'.launches ++ launched

/-- At first, no command has been launched from either. -/
theorem Workspace.InStep.refl (origin origin' : Workspace) :
    origin.InStep origin' origin origin' :=
  ⟨[], by simp⟩

/-- From two workspaces with one working directory, the same commands have been launched, and the
files are alike but for some files and directories. -/
structure Workspace.Alike (origin origin' : Workspace) (files dirs : Set Location)
    (workspace other : Workspace) : Prop where
  cwd : workspace.cwd = origin.cwd
  cwd' : other.cwd = origin.cwd
  inStep : origin.InStep origin' workspace other
  files : workspace.files.Alike files dirs other.files

/-- A command is blind to some files and directories: from trees that are alike up to these, it ends
the same and leaves trees that are alike. -/
def Machine.Blind (machine : Machine) (cwd : Location) (files dirs : Set Location)
    (command : Command) : Prop :=
  ∀ tree other : Tree, tree.Alike files dirs other →
    (machine.run command cwd other).1 = (machine.run command cwd tree).1 ∧
      (machine.run command cwd tree).2.Alike files dirs (machine.run command cwd other).2

namespace Workspace.Alike

variable {origin origin' workspace other : Workspace} {files dirs : Set Location}

/-- Workspaces are alike up to more. -/
theorem mono {files' dirs' : Set Location} (h : origin.Alike origin' files dirs workspace other)
    (hfiles : files ⊆ files') (hdirs : dirs ⊆ dirs') :
    origin.Alike origin' files' dirs' workspace other :=
  { h with files := h.files.mono hfiles hdirs }

/-- Files that are alike can take the place of others. -/
theorem withFiles {files' dirs' : Set Location} {tree tree' : Tree}
    (h : origin.Alike origin' files dirs workspace other) (halike : tree.Alike files' dirs' tree') :
    origin.Alike origin' files' dirs' { workspace with files := tree, cwd := origin.cwd }
      { other with files := tree', cwd := origin.cwd } :=
  ⟨rfl, rfl, h.inStep, halike⟩

/-- Workspaces that lose the same stay alike. -/
theorem without {lost : Set Location} {final final' : Workspace}
    (h : origin.Alike origin' files dirs workspace other) (hfinal : workspace.Without lost final)
    (hfinal' : other.Without lost final') : origin.Alike origin' files dirs final final' where
  cwd := hfinal.cwd.trans h.cwd
  cwd' := hfinal'.cwd.trans h.cwd'
  inStep := by
    obtain ⟨launched, hlaunched, hlaunched'⟩ := h.inStep
    exact ⟨launched, hfinal.launches.trans hlaunched, hfinal'.launches.trans hlaunched'⟩
  files location := by
    by_cases hlost : location ∈ lost
    · exact .of_eq (by rw [hfinal.gone location hlost, hfinal'.gone location hlost])
    · exact (h.files location).congr (hfinal.kept location hlost) (hfinal'.kept location hlost)

/-- A command that is blind to what may differ ends the same from both, and leaves them alike. -/
theorem launch (h : origin.Alike origin' files dirs workspace other) {machine : Machine}
    {command : Command} (hblind : machine.Blind origin.cwd files dirs command) :
    (other.launch machine command).1 = (workspace.launch machine command).1 ∧
      origin.Alike origin' files dirs (workspace.launch machine command).2
        (other.launch machine command).2 := by
  obtain ⟨hfinished, hfiles⟩ := hblind _ _ h.files
  obtain ⟨launched, hlaunched, hlaunched'⟩ := h.inStep
  refine ⟨?_, h.cwd, h.cwd', ⟨launched ++ [command], ?_, ?_⟩, ?_⟩
  · rw [Workspace.launch, Workspace.launch, h.cwd, h.cwd']
    exact hfinished
  · rw [launches_launch, hlaunched, List.append_assoc]
  · rw [launches_launch, hlaunched', List.append_assoc]
  · rw [Workspace.launch, Workspace.launch, h.cwd, h.cwd']
    exact hfiles

end Workspace.Alike

namespace Action

open Workspace

variable {ε : Type} {origin origin' : Workspace} {files dirs : Set Location}

/-- A command that is blind to what may differ is launched in tandem. -/
theorem tandem_launch {machine : Machine} {command : Command}
    {failed : Workspace → Workspace → Prop}
    (hblind : machine.Blind origin.cwd files dirs command) :
    (launch machine command : Action ε (Option Finished)).Tandem
      (origin.Alike origin' files dirs) Eq (origin.Alike origin' files dirs) failed := by
  intro workspace other h
  obtain ⟨hfinished, halike⟩ := h.launch hblind
  rw [exec_launch, exec_launch]
  exact .ok hfinished.symm halike

/-- Making a directory and those above it goes in tandem. -/
theorem tandem_makeDirectories {path : String} (error : ε)
    (hstart : start origin.cwd path ∉ dirs)
    (hway : ∀ stage ∈ stages origin.cwd path, stage ∉ files) :
    (makeDirectories path error).Tandem (origin.Alike origin' files dirs) Eq
      (origin.Alike origin' files (dirs \ {stage | stage ∈ stages origin.cwd path}))
      (origin.InStep origin') := by
  intro workspace other h
  obtain ⟨hresult, halike⟩ := h.files.makeDirectories hstart hway
  rw [makeDirectories, exec_changeFiles, exec_changeFiles, h.cwd, h.cwd', hresult]
  cases hmade : (workspace.files.makeDirectories origin.cwd path).1 with
  | error refusal => exact .error h.inStep
  | ok => exact .ok rfl (h.withFiles (halike hmade))

/-- Writing a text to a file of some name goes in tandem. The file is the same afterwards. -/
theorem tandem_writeText {base name : String} (hname : IsName name) (content : String)
    (hstart : start origin.cwd base ∉ dirs)
    (hway : ∀ stage ∈ stages origin.cwd base, stage ∉ files)
    (htarget : target origin.cwd (Path.join base name) ∉ dirs) :
    (writeText (Path.join base name) content).Tandem (origin.Alike origin' files dirs) Eq
      (origin.Alike origin' (files \ {target origin.cwd (Path.join base name)})
        (dirs \ {stage | stage ∈ stages origin.cwd base}))
      (origin.InStep origin') := by
  obtain ⟨parent, hparent, hstarts, hstages⟩ := exists_parent?_join hname base
  rw [← hstarts] at hstart
  have hmake : (makeParents (Path.join base name)).Tandem (origin.Alike origin' files dirs) Eq
      (origin.Alike origin' files (dirs \ {stage | stage ∈ stages origin.cwd base}))
      (origin.InStep origin') := by
    rw [makeParents, hparent]
    simpa only [hstages] using tandem_makeDirectories (FileError.notCreated parent)
      hstart fun stage hstage => hway stage ((hstages origin.cwd stage).1 hstage)
  refine hmake.bind fun _ workspace other h => ?_
  have hclear : ∀ stage ∈ (stages origin.cwd (Path.join base name)).dropLast,
      stage ∉ files ∧ stage ∉ dirs \ {stage | stage ∈ stages origin.cwd base} := by
    intro stage hstage
    rw [mem_dropLast_stages_join hname] at hstage
    exact ⟨hway stage hstage, fun hmem => hmem.2 hstage⟩
  rw [exec_replaceFiles, exec_replaceFiles, h.cwd, h.cwd']
  rcases h.files.write content.toUTF8 hclear fun hmem => htarget hmem.1 with
    ⟨refusal, refusal', hrefused, hrefused'⟩ | ⟨after, after', hwritten, hwritten', halike⟩
  · rw [hrefused, hrefused']
    exact .error h.inStep
  · rw [hwritten, hwritten']
    exact .ok rfl (h.withFiles halike)

/-- Where the same is lost with the same result, workspaces that are alike end alike. -/
private theorem endAlike_of_without {ε α : Type} {workspace other final final' : Workspace}
    {result : Except ε α} {lost : Set Location}
    (h : origin.Alike origin' files dirs workspace other)
    (hfinal : workspace.Without lost final) (hfinal' : other.Without lost final') :
    EndAlike (fun _ _ => True) (origin.Alike origin' files dirs) (origin.InStep origin')
      (result, final) (result, final') := by
  cases result with
  | error error => exact .error (h.without hfinal hfinal').inStep
  | ok value => exact .ok trivial (h.without hfinal hfinal')

/-- Removing the files with an extension from a directory goes in tandem, if nothing on the way to
the directory may differ and no file that may differ has the extension. -/
theorem tandem_removeFilesWithExtension {dir extension : String}
    (hway : ∀ stage ∈ stages origin.cwd dir, stage ∉ files ∧ stage ∉ dirs)
    (hfiles : ∀ location ∈ files, extensionAt? location ≠ some extension) :
    (removeFilesWithExtension dir extension).Tandem
      (fun workspace other => origin.Alike origin' files dirs workspace other ∧
        workspace.files.Proper ∧ other.files.Proper)
      (fun _ _ => True) (origin.Alike origin' files dirs) (origin.InStep origin') := by
  rintro workspace other ⟨h, hproper, hproper'⟩
  have hnode : other.files.node other.cwd dir = workspace.files.node workspace.cwd dir := by
    rw [h.cwd, h.cwd']
    exact h.files.node_eq hway
  obtain ⟨result, lost, final, final', hremove, hremove', hfinal, hfinal'⟩ :=
    exec_removeFilesWithExtension_of_node_eq (h.cwd'.trans h.cwd.symm) hnode hproper hproper'
      fun location hmem => (h.files location).fileAt?_eq fun hfile =>
        hfiles location hfile (Tree.extensionAt?_of_mem_sources hmem)
  rw [hremove, hremove']
  exact endAlike_of_without h hfinal hfinal'

/-- Removing a directory that the path calls by its name goes in tandem, if nothing on the way to it
may differ. -/
theorem tandem_removeDirectoryIfPresent {path : String}
    (hway : ∀ stage ∈ stages origin.cwd path, stage ∉ files ∧ stage ∉ dirs)
    (hname : (lastName? path).isSome = true) (hroot : target origin.cwd path ≠ []) :
    (removeDirectoryIfPresent path).Tandem (origin.Alike origin' files dirs) (fun _ _ => True)
      (origin.Alike origin' files dirs) (origin.InStep origin') := by
  intro workspace other h
  have hnode : other.files.node other.cwd path = workspace.files.node workspace.cwd path := by
    rw [h.cwd, h.cwd']
    exact h.files.node_eq hway
  rw [← h.cwd] at hroot
  obtain ⟨result, lost, final, final', hremove, hremove', hfinal, hfinal'⟩ :=
    exec_removeDirectoryIfPresent_of_node_eq (h.cwd'.trans h.cwd.symm) hnode hname hroot
  rw [hremove, hremove']
  exact endAlike_of_without h hfinal hfinal'

end Action

end SnippetCheck
