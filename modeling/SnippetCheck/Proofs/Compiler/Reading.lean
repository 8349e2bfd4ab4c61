import SnippetCheck.Proofs.Compiler.Session

/-!
# Compilers That Read Their Source

A machine that only reads the file its last argument names finds for every unit what it finds in
the unit's source, whatever else there is (`finds_reading`).
-/

namespace SnippetCheck

open Action Files

/-- A machine whose commands read the file that their last argument names, and end as `judge` says
of its bytes. -/
def Machine.reading (judge : ByteArray → Finished) : Machine where
  run command cwd files :=
    match files.readBytes cwd (command.args.getLast?.getD "") with
    | .ok bytes => (some (judge bytes), files)
    | .error _ => (none, files)

namespace Machine

variable {judge : ByteArray → Finished}

/-- A machine that reads changes no file. -/
theorem run_reading (command : Command) (cwd : Location) (files : Tree) :
    ((reading judge).run command cwd files).2 = files := by
  unfold reading
  dsimp only
  split <;> rfl

/-- A machine that reads leaves every file alone. -/
theorem spares_reading (location : Location) : (reading judge).Spares location :=
  fun command cwd files => by rw [run_reading]

/-- A machine that reads leaves units in place. -/
private theorem readsUnits_launch {dir : String} {units : List SourceUnit} (command : Command)
    {start : Workspace} (h : start.ReadsUnits dir units) :
    (start.launch (reading judge) command).2.ReadsUnits dir units := by
  intro sourceUnit hmem
  have hread := h sourceUnit hmem
  unfold Workspace.readText at hread ⊢
  have hfiles : (start.launch (reading judge) command).2.files = start.files :=
    run_reading command start.cwd start.files
  rw [hfiles, Workspace.cwd_launch]
  exact hread

end Machine

namespace Compiler.Session

variable {judge : ByteArray → Finished} {session : Session}

/-- The last argument of a compiler names the source. -/
theorem getLast?_args_command (session : Session) (classpath source : String) :
    (session.command classpath source).args.getLast?.getD "" = source := by
  have hargs : (session.command classpath source).args = session.toolchain.args ++
      (["-cp", classpath] ++ session.convention.extraArgs ++ ["-d", session.classesDir]) ++
        [source] := by
    simp [command, Toolchain.command, Convention.args]
  rw [hargs, List.getLast?_concat, Option.getD_some]

/-- A process for a unit that can be read ends as its source is judged. -/
private theorem launch_reading {classpath : String} {sourceUnit : SourceUnit} {start : Workspace}
    (hread : start.readText (sourceUnit.pathIn session.generatedDir) = .ok sourceUnit.source) :
    (start.launch (.reading judge) (session.unitCommand classpath sourceUnit)).1 =
      some (judge sourceUnit.source.toUTF8) := by
  have hbytes := Tree.readText_eq_ok_iff.1 hread
  simp only [Workspace.launch, Machine.reading, unitCommand, getLast?_args_command, hbytes]

/-- Compiling units with a machine that reads finds how their sources are judged. -/
private theorem compileUnits_reading {classpath : String} {units pending : List SourceUnit}
    {results : List (String × List String)} {start final : Workspace}
    (hsubset : pending ⊆ units) (hreads : start.ReadsUnits session.generatedDir units)
    (h : (session.compileUnits (.reading judge) classpath pending).Yields start results final) :
    results = freshResults (fun sourceUnit =>
      session.resultFor sourceUnit (judge sourceUnit.source.toUTF8)) pending := by
  induction pending generalizing start results with
  | nil => exact (yields_pure.1 h).1
  | cons sourceUnit pending ih =>
    obtain ⟨finished, between, later, hlaunch, hlater, rfl⟩ := compileUnits_cons_yields h
    have hread := hreads sourceUnit (hsubset List.mem_cons_self)
    have hfinished : (start.launch (.reading judge) (session.unitCommand classpath sourceUnit)).1 =
        some (judge sourceUnit.source.toUTF8) := launch_reading hread
    -- the process changes nothing, so that the later units can still be read
    have hbetween : (start.launch (.reading judge)
        (session.unitCommand classpath sourceUnit)).2.ReadsUnits session.generatedDir units :=
      Machine.readsUnits_launch _ hreads
    rw [hlaunch] at hfinished hbetween
    obtain rfl := Option.some.inj hfinished
    rw [ih (fun _ hmem => hsubset (List.mem_cons_of_mem _ hmem)) hbetween hlater]
    rfl

/-- A session with a machine that reads finds for every unit how its source is judged. -/
theorem finds_reading (version : SdkVersion) (units : List SourceUnit) :
    session.Finds (.reading judge) version (fun sourceUnit =>
      session.resultFor sourceUnit (judge sourceUnit.source.toUTF8)) units := by
  intro pending start results final hsublist hreads h
  by_cases hpending : pending = []
  · subst hpending
    exact (yields_pure.1 h).1
  rw [compile_eq_prepare_bind version hpending] at h
  obtain ⟨classpath, prepared, hprepare, hcompile⟩ := yields_bind.1 h
  have hdirectories : (makeDirectories session.classesDir
      (CompileError.notPrepared session.classesDir)).Keeps
        (Workspace.ReadsUnits session.generatedDir units) := by
    intro start hstart sourceUnit hmem
    exact (Keeps.reads (fun origin _ => keeps_makeDirectories _ _) start
      ⟨rfl, hstart sourceUnit hmem⟩).2
  have hprepared := (keeps_prepare (fun _ _ _ hstart => Machine.readsUnits_launch _ hstart)
    (fun command _ _ hstart => Machine.readsUnits_launch command hstart)
    hdirectories).of_yields hprepare hreads
  exact compileUnits_reading hsublist.subset hprepared hcompile

end Compiler.Session

end SnippetCheck
