import SnippetCheck.Proofs.Compiler.Session
import SnippetCheck.Proofs.SourceUnit
import SnippetCheck.Run.Phase

/-!
# The Generate Phase

After the phase has succeeded, every unit can be read from its path (`generate_perform_yields`),
provided that class names are distinct. Whether it succeeds or not, it touches no file of another
extension than the language's, unless it removes it with the directory of classes
(`keeps_generate`).
-/

namespace SnippetCheck

open Action Files

/-! ## From one unit to all of them -/

section

variable {holds : Workspace → Prop} {units : List SourceUnit}

/-- Writing units keeps what writing each of them keeps. -/
theorem Action.Keeps.writeUnits {dir : String}
    (h : ∀ sourceUnit ∈ units,
      (Action.writeText (sourceUnit.pathIn dir) sourceUnit.source).Keeps holds) :
    (Phase.writeUnits dir units).Keeps holds := by
  induction units with
  | nil => exact .pure ()
  | cons sourceUnit units ih =>
    obtain ⟨hfirst, hrest⟩ := List.forall_mem_cons.1 h
    exact hfirst.bind fun _ => ih hrest

/-- Replacing units keeps what is kept by the two removals and by writing each unit. -/
theorem Action.Keeps.replaceUnits {paths : LanguagePaths} {language : Language}
    (hsources : (Action.removeFilesWithExtension paths.generatedDir language.extension).Keeps holds)
    (hclasses : (Action.removeDirectoryIfPresent paths.classesDir).Keeps holds)
    (hunits : ∀ sourceUnit ∈ units,
      (Action.writeText (sourceUnit.pathIn paths.generatedDir) sourceUnit.source).Keeps holds) :
    (Phase.replaceUnits paths language units).Keeps holds :=
  hsources.bind fun _ => hclasses.bind fun _ => .writeUnits hunits

end

/-! ## What is written -/

namespace Phase

open SourceUnit Workspace

variable {language : Language} {dir : String} {units : List SourceUnit}

/-- Writing units touches no other file. -/
theorem keeps_writeUnits {origin : Workspace} {location : Location}
    (h : ∀ sourceUnit ∈ units, location ≠ target origin.cwd (sourceUnit.pathIn dir)) :
    (writeUnits dir units).Keeps (origin.Agrees location) :=
  .writeUnits fun sourceUnit hmem => keeps_writeText (h sourceUnit hmem) _

/-- Units with distinct class names can be read where they were written. -/
theorem reads_of_writeUnits {start final : Workspace} {value : Unit}
    (hnamed : ∀ sourceUnit ∈ units, WellNamed language sourceUnit)
    (hnames : (units.map className).Nodup)
    (h : (writeUnits dir units).Yields start value final) :
    final.cwd = start.cwd ∧ final.ReadsUnits dir units := by
  induction units generalizing start with
  | nil =>
    obtain ⟨rfl, rfl⟩ := yields_pure.1 h
    exact ⟨rfl, by simp [ReadsUnits]⟩
  | cons sourceUnit units ih =>
    obtain ⟨hname, hrest⟩ := List.nodup_cons.1 hnames
    obtain ⟨_, between, hfirst, hlater⟩ := yields_bind.1 h
    obtain ⟨hcwd, hread, -⟩ := reads_of_writeText hfirst
    have hnamed' : ∀ other ∈ units, WellNamed language other :=
      fun other hother => hnamed other (List.mem_cons_of_mem sourceUnit hother)
    obtain ⟨hcwd', hreads⟩ := ih hnamed' hrest hlater
    -- the units that are written later stand at other places
    have hkeeps : (writeUnits dir units).Keeps
        (Reads between.cwd (sourceUnit.pathIn dir) sourceUnit.source) := by
      refine Keeps.reads fun origin _ => keeps_writeUnits fun other hother => ?_
      rw [‹origin.cwd = between.cwd›]
      refine (hnamed sourceUnit List.mem_cons_self).target_pathIn_ne (hnamed' other hother) ?_ _ _
      exact fun heq => hname (heq ▸ List.mem_map_of_mem hother)
    refine ⟨hcwd'.trans hcwd, fun other hother => ?_⟩
    rcases List.mem_cons.1 hother with rfl | hmem
    · exact (hkeeps.of_yields hlater ⟨rfl, hread⟩).2
    · exact hreads other hmem

variable {paths : LanguagePaths} {cwd location : Location} {property : Option ByteArray → Prop}

/-- Replacing units touches no file of another extension, or removes it with the directory of
classes. -/
theorem keeps_replaceUnits (hnone : property none)
    (hextension : extensionAt? location ≠ some language.extension)
    (hnamed : ∀ sourceUnit ∈ units, WellNamed language sourceUnit) :
    (replaceUnits paths language units).Keeps fun workspace =>
      workspace.cwd = cwd ∧ property (workspace.files.fileAt? location) := by
  refine .replaceUnits (.of_holdsAt (fun content => .holdsAt fun origin _ =>
    keeps_removeFilesWithExtension hextension) property)
    (keeps_removeDirectoryIfPresent_of_none _ hnone) fun sourceUnit hmem => ?_
  exact .of_holdsAt (fun content => .holdsAt fun origin _ =>
    keeps_writeText ((hnamed sourceUnit hmem).ne_target_pathIn hextension _ _) _) property

/-- Units with distinct class names can be read where they were put. -/
theorem reads_of_replaceUnits {start final : Workspace} {value : Unit}
    (hnamed : ∀ sourceUnit ∈ units, WellNamed language sourceUnit)
    (hnames : (units.map className).Nodup)
    (h : (replaceUnits paths language units).Yields start value final) :
    final.ReadsUnits paths.generatedDir units := by
  obtain ⟨_, _, _, hrest⟩ := yields_bind.1 h
  obtain ⟨_, _, _, hwrite⟩ := yields_bind.1 hrest
  exact (reads_of_writeUnits hnamed hnames hwrite).2

/-! ## The phase as a whole -/

/-- A generate phase that succeeds has the units of the snippets, and has replaced the units of
the language by them. -/
theorem generate_perform_yields {run next : Run} {start final : Workspace}
    (h : (generate.perform run).Yields start next final) :
    next = { noteCollisions run with
      units := SourceUnit.ofSnippets run.task.settings run.snippets } ∧
    (replaceUnits run.task.paths run.task.language next.units).Yields start () final := by
  obtain ⟨_, between, hreplace, hnext⟩ := yields_bind.1 h
  obtain ⟨rfl, rfl⟩ := yields_pure.1 hnext
  exact ⟨rfl, yields_describing.1 hreplace⟩

/-- The generate phase keeps what replacing the units keeps. -/
theorem keeps_generate_of_replaceUnits {run : Run} {holds : Workspace → Prop}
    (h : (replaceUnits run.task.paths run.task.language
      (SourceUnit.ofSnippets run.task.settings run.snippets)).Keeps holds) :
    (generate.perform run).Keeps holds :=
  Keeps.bind (Keeps.describing _ h) fun _ => .pure _

/-- The generate phase touches no file of another extension, or removes it with the directory of
classes, whether it succeeds or not. -/
theorem keeps_generate {run : Run} (hnone : property none)
    (hextension : extensionAt? location ≠ some run.task.language.extension) :
    (generate.perform run).Keeps fun workspace =>
      workspace.cwd = cwd ∧ property (workspace.files.fileAt? location) :=
  keeps_generate_of_replaceUnits <|
    keeps_replaceUnits hnone hextension fun _ => wellNamed_of_mem_ofSnippets

end Phase

end SnippetCheck
