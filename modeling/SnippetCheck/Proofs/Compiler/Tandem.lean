import SnippetCheck.Proofs.Compiler.Commands
import SnippetCheck.Proofs.Compiler.Reading
import SnippetCheck.Proofs.Tandem

/-!
# Sessions In Tandem

A session whose commands are blind to some files and directories (`Session.Blind`) compiles the same
units in tandem from workspaces that are alike up to these (`Session.tandem_compile`): it launches
the same commands, and finds the same or fails with the same error. A machine that only reads is
blind to all that its command does not come across (`Machine.blind_reading`).
-/

namespace SnippetCheck.Compiler

open Action Files Workspace

variable {machine : Machine} {version : SdkVersion} {origin origin' workspace other : Workspace}
  {files dirs : Set Location}

/-- The command that exports the classpath is blind to some files and directories, and so is what is
read afterwards from the file that it writes. -/
structure Exporter.Blind (exporter : Exporter) (machine : Machine) (version : SdkVersion)
    (cwd : Location) (files dirs : Set Location) : Prop where
  command : ∀ command ∈ exporter.commands version, machine.Blind cwd files dirs command
  output : ∀ command ∈ exporter.commands version, ∀ path, exporter.output = some path →
    ∀ tree other : Tree, tree.Alike files dirs other →
      ((machine.run command cwd other).2.readText cwd path).toOption =
        ((machine.run command cwd tree).2.readText cwd path).toOption

/-- The commands of a session are blind to some files and directories. The directory of classes is
there once the classpath is known, and so are those above it. -/
structure Session.Blind (session : Session) (machine : Machine) (version : SdkVersion)
    (units : List SourceUnit) (cwd : Location) (files dirs : Set Location) : Prop where
  exporter : ∀ exporter, session.classpath.exporter = some exporter →
    exporter.Blind machine version cwd files dirs
  base : ∀ classpath, machine.Blind cwd files
    (dirs \ {stage | stage ∈ stages cwd session.classesDir})
    (session.command classpath session.baseSource)
  units : ∀ classpath, ∀ sourceUnit ∈ units, machine.Blind cwd files
    (dirs \ {stage | stage ∈ stages cwd session.classesDir})
    (session.unitCommand classpath sourceUnit)

/-! ## Sessions in parts -/

section Parts

variable {before resolved made after failed : Workspace → Workspace → Prop}

/-- What is read from the file that a command writes the classpath to is the same, if it is told to
write one. -/
def Exporter.SameOutput (exporter : Exporter) (workspace other : Workspace) : Prop :=
  ∀ path, exporter.output = some path →
    (other.readText path).toOption = (workspace.readText path).toOption

/-- What a command has exported is read in tandem, if the file that it writes is. -/
private theorem Exporter.endAlike_exported {exporter : Exporter} (finished : Finished)
    (hafter : after workspace other) (hfailed : failed workspace other)
    (houtput : exporter.SameOutput workspace other) :
    EndAlike Eq after failed ((exporter.exported finished).exec workspace)
      ((exporter.exported finished).exec other) := by
  unfold Exporter.exported
  split
  next => exact .ok rfl hafter
  next path hpath =>
    have hsame := houtput path hpath
    rw [exec_get_bind, exec_get_bind]
    cases htext : workspace.readText path with
    | error refusal =>
      cases htext' : other.readText path with
      | error refusal' => exact .error hfailed
      | ok text =>
        rw [htext, htext'] at hsame
        cases hsame
    | ok text =>
      cases htext' : other.readText path with
      | error refusal' =>
        rw [htext, htext'] at hsame
        cases hsame
      | ok text' =>
        rw [htext, htext'] at hsame
        obtain rfl : text' = text := Option.some.inj hsame
        exact .ok rfl hafter

/-- The classpath is exported in tandem if the command for that is launched in tandem. -/
theorem Exporter.tandem_run {exporter : Exporter}
    (hbefore : ∀ workspace other, before workspace other → failed workspace other)
    (hafter : ∀ workspace other, after workspace other → failed workspace other)
    (hlaunch : ∀ command ∈ exporter.commands version,
      (launch machine command : Action CompileError (Option Finished)).Tandem before Eq
        (fun workspace other => after workspace other ∧ exporter.SameOutput workspace other)
        failed) :
    (exporter.run machine version).Tandem before Eq after failed := by
  unfold Exporter.run
  dsimp only
  split
  next => exact .throw _ hbefore
  next program args hline =>
    have hcommand : (⟨program, args, some exporter.dir⟩ : Command) ∈ exporter.commands version := by
      simp [commands, hline]
    refine (hlaunch _ hcommand).bind fun finished => ?_
    rintro middle middle' ⟨hmiddle, houtput⟩
    have hfailed := hafter _ _ hmiddle
    cases finished with
    | none => exact .error hfailed
    | some finished =>
      dsimp only
      split
      next => exact endAlike_exported finished hmiddle hfailed houtput
      next => exact .error hfailed

/-- The classpath is found in tandem if it is exported in tandem, or if it is known. -/
theorem Classpath.tandem_resolve {classpath : Classpath}
    (hafter : ∀ workspace other, after workspace other → failed workspace other)
    (hknown : classpath.exporter = none → ∀ workspace other, before workspace other →
      after workspace other)
    (hrun : ∀ exporter, classpath.exporter = some exporter →
      (exporter.run machine version).Tandem before Eq after failed) :
    (classpath.resolve machine version).Tandem before Eq after failed := by
  unfold Classpath.resolve
  dsimp only
  split
  next hnone =>
    exact (Tandem.lift _ hafter).imp (hknown hnone) fun _ _ h => h
  next exporter hexporter => exact (hrun exporter hexporter).bind fun _ => .lift _ hafter

namespace Session

variable {session : Session} {classpath : String}

/-- A compiler is called in tandem from two workspaces. -/
def LaunchAlike (session : Session) (machine : Machine)
    (made failed : Workspace → Workspace → Prop) (classpath source : String)
    (workspace other : Workspace) : Prop :=
  EndAlike Eq made failed
    ((launch machine (session.command classpath source) :
      Action CompileError (Option Finished)).exec workspace)
    ((launch machine (session.command classpath source) :
      Action CompileError (Option Finished)).exec other)

variable (hfailed : ∀ workspace other, made workspace other → failed workspace other)
include hfailed

/-- A source file is compiled in tandem if the compiler is called in tandem. -/
private theorem endAlike_compileFile {source : String} (fileName : String)
    (hlaunch : session.LaunchAlike machine made failed classpath source workspace other) :
    EndAlike Eq made failed ((session.compileFile machine classpath source fileName).exec workspace)
      ((session.compileFile machine classpath source fileName).exec other) := by
  refine EndAlike.bind hlaunch ?_
  rintro finished _ middle middle' rfl hmiddle
  cases finished with
  | none => exact .error (hfailed _ _ hmiddle)
  | some finished => exact .ok rfl hmiddle

/-- The base type is compiled in tandem if its source is a file in both workspaces or in neither,
and the compiler is then called in tandem. -/
private theorem tandem_compileBase
    (hbase : ∀ workspace other, made workspace other →
      other.isFile session.baseSource = workspace.isFile session.baseSource ∧
        (workspace.isFile session.baseSource = true →
          session.LaunchAlike machine made failed classpath session.baseSource workspace other)) :
    (session.compileBase machine classpath).Tandem made Eq made failed := by
  intro workspace other hmade
  obtain ⟨hfile, hlaunch⟩ := hbase workspace other hmade
  unfold compileBase
  rw [exec_get_bind, exec_get_bind, hfile]
  split
  next hpresent =>
    refine (endAlike_compileFile hfailed _ (hlaunch hpresent)).bind ?_
    rintro errors _ middle middle' rfl hmiddle
    cases errors with
    | nil => exact .ok rfl hmiddle
    | cons => exact .error (hfailed _ _ hmiddle)
  next => exact .error (hfailed _ _ hmade)

/-- Units are compiled in tandem if the compiler is called in tandem for each of them. -/
private theorem tandem_compileUnits {units : List SourceUnit}
    (hunits : ∀ sourceUnit ∈ units, ∀ workspace other, made workspace other →
      session.LaunchAlike machine made failed (session.unitClasspath classpath)
        (sourceUnit.pathIn session.generatedDir) workspace other) :
    (session.compileUnits machine classpath units).Tandem made Eq made failed := by
  induction units with
  | nil => exact .pure _
  | cons sourceUnit units ih =>
    obtain ⟨hunit, hlater⟩ := List.forall_mem_cons.1 hunits
    refine Tandem.bind (fun workspace other hmade =>
      endAlike_compileFile hfailed _ (hunit workspace other hmade)) fun errors => ?_
    exact (ih hlater).bind fun _ => .pure _

/-- A session compiles units in tandem if it prepares in tandem and then calls the compiler in
tandem. Of the classpath that is found, `good` may be relied on. -/
theorem tandem_compile_of_parts {units : List SourceUnit} {good : String → Prop}
    (hnone : ∀ workspace other, before workspace other → after workspace other)
    (hafter : ∀ workspace other, made workspace other → after workspace other)
    (hresolve : (session.classpath.resolve machine version).Tandem before
      (fun found found' => found = found' ∧ good found) resolved failed)
    (hmake : (makeDirectories session.classesDir
      (CompileError.notPrepared session.classesDir)).Tandem resolved Eq made failed)
    (hbase : ∀ classpath, good classpath → ∀ workspace other, made workspace other →
      other.isFile session.baseSource = workspace.isFile session.baseSource ∧
        (workspace.isFile session.baseSource = true →
          session.LaunchAlike machine made failed classpath session.baseSource workspace other))
    (hunits : ∀ classpath, good classpath → ∀ sourceUnit ∈ units, ∀ workspace other,
      made workspace other →
        session.LaunchAlike machine made failed (session.unitClasspath classpath)
          (sourceUnit.pathIn session.generatedDir) workspace other) :
    (session.compile machine version units).Tandem before Eq after failed := by
  unfold compile
  split
  next => exact (Tandem.pure _).imp (fun _ _ h => h) hnone
  next units _ =>
    refine fun start start' hbefore => (hresolve start start' hbefore).bind ?_
    rintro classpath _ middle middle' ⟨rfl, hgood⟩ hresolved
    refine (hmake.bind fun _ => ?_) middle middle' hresolved
    refine (tandem_compileBase hfailed (hbase classpath hgood)).bind fun _ => ?_
    exact (tandem_compileUnits hfailed (hunits classpath hgood)).imp (fun _ _ h => h) hafter

end Session

end Parts

/-! ## Blind commands -/

/-- The classpath is found in tandem if the command for that is blind to what may differ. -/
private theorem Classpath.tandem_resolve_of_blind {classpath : Classpath}
    (hblind : ∀ exporter, classpath.exporter = some exporter →
      exporter.Blind machine version origin.cwd files dirs) :
    (classpath.resolve machine version).Tandem (origin.Alike origin' files dirs)
      (fun found found' => found = found' ∧ True) (origin.Alike origin' files dirs)
      (origin.InStep origin') := by
  suffices h : (classpath.resolve machine version).Tandem (origin.Alike origin' files dirs) Eq
      (origin.Alike origin' files dirs) (origin.InStep origin') from
    fun workspace other halike => (h workspace other halike).imp (fun _ _ heq => ⟨heq, trivial⟩)
      (fun _ _ h => h) fun _ _ h => h
  refine Classpath.tandem_resolve (fun _ _ h => h.inStep) (fun _ _ _ h => h)
    fun exporter hexporter => ?_
  refine Exporter.tandem_run (fun _ _ h => h.inStep) (fun _ _ h => h.inStep)
    fun command hcommand workspace other h => ?_
  obtain ⟨hcommands, houtput⟩ := hblind exporter hexporter
  obtain ⟨hfinished, halike⟩ := h.launch (hcommands command hcommand)
  rw [exec_launch, exec_launch]
  refine .ok hfinished.symm ⟨halike, fun path hpath => ?_⟩
  have hread := houtput command hcommand path hpath _ _ h.files
  rwa [Workspace.readText, Workspace.readText, halike.cwd, halike.cwd', Workspace.launch,
    Workspace.launch, h.cwd, h.cwd']

namespace Session

variable {session : Session}

/-- A session that is blind to what may differ compiles units in tandem, as long as the directory of
classes can be reached in both alike, and what may be missing on the way to the source of the base
type is made with that directory. -/
theorem tandem_compile {units : List SourceUnit}
    (hblind : session.Blind machine version units origin.cwd files dirs)
    (hstart : start origin.cwd session.classesDir ∉ dirs)
    (hclasses : ∀ stage ∈ stages origin.cwd session.classesDir, stage ∉ files)
    (hbase : ∀ stage ∈ stages origin.cwd session.baseSource, stage ∉ files ∧
      (stage ∈ dirs → stage ∈ stages origin.cwd session.classesDir)) :
    (session.compile machine version units).Tandem (origin.Alike origin' files dirs) Eq
      (origin.Alike origin' files dirs) (origin.InStep origin') := by
  refine tandem_compile_of_parts (fun _ _ h => h.inStep) (fun _ _ h => h) (fun _ _ h => ?_)
    (Classpath.tandem_resolve_of_blind hblind.exporter) (tandem_makeDirectories _ hstart hclasses)
    (fun classpath _ workspace other h => ⟨?_, fun _ => ?_⟩)
    fun classpath _ sourceUnit hmem workspace other h => ?_
  · exact h.mono (fun _ hmem => hmem) fun _ hmem => hmem.1
  · rw [Workspace.isFile, Workspace.isFile, h.cwd, h.cwd', Tree.isFile, Tree.isFile,
      h.files.node_eq fun stage hstage => ⟨(hbase stage hstage).1, fun hmem =>
        hmem.2 ((hbase stage hstage).2 hmem.1)⟩]
  · exact tandem_launch (hblind.base classpath) workspace other h
  · exact tandem_launch (hblind.units classpath sourceUnit hmem) workspace other h

end Session

end SnippetCheck.Compiler

/-! ## Compilers that read their source -/

namespace SnippetCheck.Machine

open Files

/-- A machine that reads is blind to what its command does not come across. -/
theorem blind_reading {judge : ByteArray → Finished} {cwd : Location}
    {files dirs : Set Location} {command : Command}
    (hway : ∀ stage ∈ stages cwd (command.args.getLast?.getD ""), stage ∉ files ∧ stage ∉ dirs) :
    (reading judge).Blind cwd files dirs command := by
  intro tree other h
  rw [run_reading, run_reading]
  refine ⟨?_, h⟩
  unfold reading Tree.readBytes
  dsimp only
  rw [h.node_eq hway]
  cases tree.node cwd (command.args.getLast?.getD "") with
  | error refusal => rfl
  | ok node => cases node <;> rfl

end SnippetCheck.Machine

namespace SnippetCheck.Compiler.Session

open Files

/-- A session whose compiler only reads, and whose classpath is known, is blind to what is not on
the way to its sources. -/
theorem blind_reading {session : Session} {judge : ByteArray → Finished} {version : SdkVersion}
    {units : List SourceUnit} {cwd : Location} {files dirs : Set Location}
    (hexporter : session.classpath.exporter = none)
    (hbase : ∀ stage ∈ stages cwd session.baseSource, stage ∉ files ∧
      stage ∉ dirs \ {stage | stage ∈ stages cwd session.classesDir})
    (hunits : ∀ sourceUnit ∈ units, ∀ stage ∈ stages cwd (sourceUnit.pathIn session.generatedDir),
      stage ∉ files ∧ stage ∉ dirs \ {stage | stage ∈ stages cwd session.classesDir}) :
    session.Blind (.reading judge) version units cwd files dirs := by
  refine Blind.mk (fun exporter hsome => ?_) (fun classpath => ?_)
    fun classpath sourceUnit hmem => ?_
  · have hnone := hexporter.symm.trans hsome
    cases hnone
  · refine Machine.blind_reading fun stage hstage => hbase stage ?_
    rwa [getLast?_args_command] at hstage
  · refine Machine.blind_reading fun stage hstage => hunits sourceUnit hmem stage ?_
    rwa [unitCommand, getLast?_args_command] at hstage

end SnippetCheck.Compiler.Session
