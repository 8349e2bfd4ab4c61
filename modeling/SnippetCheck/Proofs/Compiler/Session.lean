import Mathlib.Data.List.Nodup
import SnippetCheck.Compiler.Session
import SnippetCheck.Proofs.Files.Change

/-!
# What A Session Finds

A session with pending units first prepares (`Session.prepare`), then runs one process for each
unit, in the order of the units. `Workspace.Ran` is the record of such processes, and
`Session.compile_yields` says that a session gives what they found: for every unit the result of
its own process, which is empty just when the process succeeded (`resultOf_eq_nil`).
-/

namespace SnippetCheck

/-- Every unit can be read from its path in a directory. -/
def Workspace.ReadsUnits (dir : String) (units : List SourceUnit) (workspace : Workspace) :
    Prop :=
  ∀ sourceUnit ∈ units, workspace.readText (sourceUnit.pathIn dir) = .ok sourceUnit.source

/-- From one workspace to another, commands ran one after the other and ended as recorded. -/
inductive Workspace.Ran (machine : Machine) :
    Workspace → List (Command × Finished) → Workspace → Prop
  | nil (workspace : Workspace) : Ran machine workspace [] workspace
  | cons {start between final : Workspace} {command : Command} {finished : Finished}
    {later : List (Command × Finished)}
    (hlaunch : start.launch machine command = (some finished, between))
    (hlater : Ran machine between later final) :
    Ran machine start ((command, finished) :: later) final

/-- The recorded commands are the ones that were launched. -/
theorem Workspace.Ran.launches_eq {machine : Machine} {start final : Workspace}
    {record : List (Command × Finished)} (h : Ran machine start record final) :
    final.launches = start.launches ++ record.map Prod.fst := by
  induction h with
  | nil => simp
  | @cons start between final command finished later hlaunch _ ih =>
    have hbetween : between.launches = start.launches ++ [command] := by
      rw [← launches_launch machine command start, hlaunch]
    rw [ih, hbetween, List.map_cons, List.append_assoc]
    rfl

namespace Compiler

open Action

/-- A process has found nothing wrong just when it succeeded. -/
theorem resultOf_eq_nil (convention : Convention) (fileName : String) (finished : Finished) :
    resultOf convention fileName finished = [] ↔ finished.status.isSuccess = true := by
  unfold resultOf
  split
  next hsuccess => simp [hsuccess]
  next hfailure =>
    refine iff_of_false ?_ hfailure
    dsimp only
    split
    next => simp
    next herrors => exact herrors

namespace Session

variable {machine : Machine} {session : Session}

/-- The command for a unit. -/
def unitCommand (session : Session) (classpath : String) (sourceUnit : SourceUnit) : Command :=
  session.command (session.unitClasspath classpath) (sourceUnit.pathIn session.generatedDir)

/-- The lines that describe what a process found wrong with a unit. -/
def resultFor (session : Session) (sourceUnit : SourceUnit) (finished : Finished) : List String :=
  resultOf session.convention sourceUnit.fileName finished

/-- Results that were found for units, by the names of their classes. -/
def freshResults (found : SourceUnit → List String) (units : List SourceUnit) :
    List (String × List String) :=
  units.map fun sourceUnit => (sourceUnit.className, found sourceUnit)

/-- What a session does before it compiles its units; it gives the classpath. -/
def prepare (session : Session) (machine : Machine) (version : SdkVersion) :
    Action CompileError String := do
  let classpath ← session.classpath.resolve machine version
  Action.makeDirectories session.classesDir (.notPrepared session.classesDir)
  session.compileBase machine classpath
  return classpath

/-- A session with pending units prepares and compiles them. -/
theorem compile_eq_prepare_bind (version : SdkVersion) {units : List SourceUnit}
    (h : units ≠ []) :
    session.compile machine version units =
      (do session.compileUnits machine (← session.prepare machine version) units) := by
  unfold compile
  split
  next => exact absurd rfl h
  next => simp [prepare]

/-- The process of a unit that was compiled has ended, and what it found is the result. -/
theorem compileUnit_yields {classpath : String} {sourceUnit : SourceUnit} {errors : List String}
    {start final : Workspace} :
    (session.compileUnit machine classpath sourceUnit).Yields start errors final ↔
      ∃ finished, start.launch machine (session.unitCommand classpath sourceUnit) =
        (some finished, final) ∧ errors = session.resultFor sourceUnit finished := by
  unfold compileUnit compileFile
  simp only [yields_bind, yields_launch]
  constructor
  · rintro ⟨_ | finished, between, hlaunch, hrest⟩
    · exact absurd hrest not_yields_throw
    · rw [yields_pure] at hrest
      obtain ⟨rfl, rfl⟩ := hrest
      exact ⟨finished, hlaunch, rfl⟩
  · rintro ⟨finished, hlaunch, rfl⟩
    exact ⟨some finished, final, hlaunch, yields_pure.2 ⟨rfl, rfl⟩⟩

/-- The first of several units is compiled by a process of its own, and then the others are. -/
theorem compileUnits_cons_yields {classpath : String} {sourceUnit : SourceUnit}
    {units : List SourceUnit} {results : List (String × List String)} {start final : Workspace}
    (h : (session.compileUnits machine classpath (sourceUnit :: units)).Yields start results
      final) :
    ∃ finished between later,
      start.launch machine (session.unitCommand classpath sourceUnit) = (some finished, between) ∧
      (session.compileUnits machine classpath units).Yields between later final ∧
      results = (sourceUnit.className, session.resultFor sourceUnit finished) :: later := by
  obtain ⟨errors, between, hfirst, hnext⟩ := yields_bind.1 h
  obtain ⟨later, last, hlater, hresults⟩ := yields_bind.1 hnext
  obtain ⟨rfl, rfl⟩ := yields_pure.1 hresults
  obtain ⟨finished, hlaunch, rfl⟩ := compileUnit_yields.1 hfirst
  exact ⟨finished, between, later, hlaunch, hlater, rfl⟩

/-- Every unit is compiled by a process of its own, in the order of the units. -/
theorem compileUnits_yields {classpath : String} {units : List SourceUnit}
    {results : List (String × List String)} {start final : Workspace} (hnodup : units.Nodup)
    (h : (session.compileUnits machine classpath units).Yields start results final) :
    ∃ process : SourceUnit → Finished,
      results = freshResults
        (fun sourceUnit => session.resultFor sourceUnit (process sourceUnit)) units ∧
      Workspace.Ran machine start (units.map fun sourceUnit =>
        (session.unitCommand classpath sourceUnit, process sourceUnit)) final := by
  induction units generalizing start results with
  | nil =>
    obtain ⟨rfl, rfl⟩ := yields_pure.1 h
    exact ⟨fun _ => ⟨.code 0, [], []⟩, rfl, .nil _⟩
  | cons sourceUnit units ih =>
    obtain ⟨hmem, hrest⟩ := List.nodup_cons.1 hnodup
    obtain ⟨finished, between, later, hlaunch, hlater, rfl⟩ := compileUnits_cons_yields h
    obtain ⟨process, rfl, hran⟩ := ih hrest hlater
    -- no later unit is this one, so that its process can be recorded beside theirs
    have hother {other : SourceUnit} (hlater : other ∈ units) :
        Function.update process sourceUnit finished other = process other := by
      refine Function.update_of_ne ?_ _ _
      rintro rfl
      exact hmem hlater
    refine ⟨Function.update process sourceUnit finished, ?_, ?_⟩
    · rw [freshResults, freshResults, List.map_cons, Function.update_self]
      congr 1
      exact List.map_congr_left fun other hmem => by rw [hother hmem]
    · rw [List.map_cons, Function.update_self]
      refine .cons hlaunch ?_
      rw [List.map_congr_left fun other hmem => by rw [hother hmem]]
      exact hran

/-- A session that ends has prepared, unless there was nothing to do, and gives what the process
of each unit found. -/
theorem compile_yields {version : SdkVersion} {units : List SourceUnit}
    {results : List (String × List String)} {start final : Workspace} (hnodup : units.Nodup)
    (h : (session.compile machine version units).Yields start results final) :
    ∃ (process : SourceUnit → Finished) (classpath : String) (prepared : Workspace),
      (units = [] → prepared = start) ∧
      (units ≠ [] → (session.prepare machine version).Yields start classpath prepared) ∧
      results = freshResults
        (fun sourceUnit => session.resultFor sourceUnit (process sourceUnit)) units ∧
      Workspace.Ran machine prepared (units.map fun sourceUnit =>
        (session.unitCommand classpath sourceUnit, process sourceUnit)) final := by
  by_cases hunits : units = []
  · subst hunits
    obtain ⟨rfl, rfl⟩ := yields_pure.1 h
    exact ⟨fun _ => ⟨.code 0, [], []⟩, "", _, fun _ => rfl, fun h => absurd rfl h, rfl, .nil _⟩
  · rw [compile_eq_prepare_bind version hunits] at h
    obtain ⟨classpath, prepared, hprepare, hcompile⟩ := yields_bind.1 h
    obtain ⟨process, hresults, hran⟩ := compileUnits_yields hnodup hcompile
    exact ⟨process, classpath, prepared, fun hnil => absurd hnil hunits, fun _ => hprepare,
      hresults, hran⟩

/-! ## What a session depends on -/

/-- As long as the sources of units are in place, a session finds for each of them what `found`
says, whichever of them it compiles. -/
def Finds (session : Session) (machine : Machine) (version : SdkVersion)
    (found : SourceUnit → List String) (units : List SourceUnit) : Prop :=
  ∀ pending start results final, pending.Sublist units →
    start.ReadsUnits session.generatedDir units →
    (session.compile machine version pending).Yields start results final →
    results = freshResults found pending

/-- What is found for units only matters for these units. -/
theorem Finds.congr {version : SdkVersion} {found other : SourceUnit → List String}
    {units : List SourceUnit} (h : session.Finds machine version found units)
    (heq : ∀ sourceUnit ∈ units, found sourceUnit = other sourceUnit) :
    session.Finds machine version other units := by
  intro pending start results final hsublist hreads hyields
  rw [h pending start results final hsublist hreads hyields]
  exact List.map_congr_left fun sourceUnit hmem => by rw [heq sourceUnit (hsublist.subset hmem)]

/-! ## What a session leaves alone -/

end Session

/-- The command that exports the classpath for an SDK version, if there is one. -/
def Exporter.commands (exporter : Exporter) (version : SdkVersion) : List Command :=
  match exporter.commandLine version with
  | [] => []
  | program :: args => [{ program, args, dir := some exporter.dir }]

/-- The command that exports the classpath for an SDK version, if there is one. -/
def Classpath.commands (classpath : Classpath) (version : SdkVersion) : List Command :=
  match classpath.exporter with
  | none => []
  | some exporter => exporter.commands version

/-- Finding the classpath keeps what the machine keeps when it runs the command for that. -/
theorem Classpath.keeps_resolve {machine : Machine} {holds : Workspace → Prop}
    {classpath : Classpath} {version : SdkVersion}
    (hlaunch : ∀ command ∈ classpath.commands version, ∀ start, holds start →
      holds (start.launch machine command).2) :
    (classpath.resolve machine version).Keeps holds := by
  unfold Classpath.resolve
  dsimp only
  split
  next => exact .lift _
  next exporter hexporter =>
    -- all that an exporter changes, it changes by its one launch
    refine Keeps.bind ?_ fun _ => .lift _
    rw [Classpath.commands, hexporter] at hlaunch
    unfold Exporter.run
    dsimp only
    split
    next => exact .throw _
    next program args hline =>
      have hmem : (⟨program, args, some exporter.dir⟩ : Command) ∈ exporter.commands version := by
        rw [Exporter.commands, hline]
        exact List.mem_singleton_self _
      refine Keeps.bind (Keeps.launch (hlaunch _ hmem)) fun finished => ?_
      cases finished with
      | none => exact .throw _
      | some finished =>
        dsimp only
        split
        next =>
          unfold Exporter.exported
          split
          next => exact .pure _
          next =>
            refine Keeps.get_bind fun start hstart => ?_
            split <;> exact hstart
        next => exact .throw _

namespace Session

section Keeps

variable {machine : Machine} {session : Session} {holds : Workspace → Prop}
  (hcompiler : ∀ classpath source start, holds start →
    holds (start.launch machine (session.command classpath source)).2)
include hcompiler

/-- Compiling a file keeps what the machine keeps. -/
theorem keeps_compileFile (classpath source fileName : String) :
    (session.compileFile machine classpath source fileName).Keeps holds := by
  refine Keeps.bind (Keeps.launch (hcompiler classpath source)) fun finished => ?_
  cases finished with
  | none => exact .throw _
  | some finished => exact .pure _

/-- Compiling units keeps what the machine keeps. -/
theorem keeps_compileUnits (classpath : String) (units : List SourceUnit) :
    (session.compileUnits machine classpath units).Keeps holds := by
  induction units with
  | nil => exact .pure []
  | cons sourceUnit units ih =>
    exact (keeps_compileFile hcompiler _ _ _).bind fun _ => ih.bind fun _ => .pure _

/-- Compiling the base type keeps what the machine keeps. -/
theorem keeps_compileBase (classpath : String) :
    (session.compileBase machine classpath).Keeps holds := by
  refine Keeps.get_bind fun start hstart => ?_
  split
  next =>
    refine ((keeps_compileFile hcompiler _ _ _).bind fun errors => ?_) start hstart
    cases errors with
    | nil => exact .pure ()
    | cons => exact .throw _
  next => exact hstart

variable {version : SdkVersion}
  (hexporter : ∀ command ∈ session.classpath.commands version, ∀ start, holds start →
    holds (start.launch machine command).2)
  (hdirectories : (makeDirectories session.classesDir
    (CompileError.notPrepared session.classesDir)).Keeps holds)
include hexporter hdirectories

/-- Preparing keeps what the machine keeps, if making the directory of classes does. -/
theorem keeps_prepare : (session.prepare machine version).Keeps holds :=
  (Classpath.keeps_resolve hexporter).bind fun classpath => hdirectories.bind fun _ =>
    (keeps_compileBase hcompiler classpath).bind fun _ => .pure classpath

/-- A session keeps what the machine keeps, if making the directory of classes does. -/
theorem keeps_compile (units : List SourceUnit) :
    (session.compile machine version units).Keeps holds := by
  by_cases hunits : units = []
  · subst hunits
    exact .pure []
  · rw [compile_eq_prepare_bind version hunits]
    exact (keeps_prepare hcompiler hexporter hdirectories).bind fun classpath =>
      keeps_compileUnits hcompiler classpath units

end Keeps

end Session

end Compiler

/-- A machine leaves the file at a location alone, whatever it runs. -/
def Machine.Spares (machine : Machine) (location : Files.Location) : Prop :=
  ∀ command cwd files, (machine.run command cwd files).2.fileAt? location = files.fileAt? location

/-- A launch leaves a file that its machine leaves alone. -/
theorem Workspace.HoldsAt.launch {machine : Machine} {command : Command}
    {location cwd : Files.Location} {content : Option ByteArray} {start : Workspace}
    (h : start.HoldsAt cwd location content)
    (hspares : (machine.run command cwd start.files).2.fileAt? location =
      start.files.fileAt? location) :
    (start.launch machine command).2.HoldsAt cwd location content := by
  obtain ⟨rfl, hcontent⟩ := h
  exact ⟨rfl, hspares.trans hcontent⟩

/-- A session leaves a file alone that its machine leaves alone. -/
theorem Compiler.Session.keeps_compile_holdsAt {machine : Machine} {location cwd : Files.Location}
    (hspares : machine.Spares location) (session : Session) (version : SdkVersion)
    (units : List SourceUnit) (content : Option ByteArray) :
    (session.compile machine version units).Keeps (Workspace.HoldsAt cwd location content) :=
  keeps_compile (fun _ _ start hstart => hstart.launch (hspares _ cwd start.files))
    (fun _ _ start hstart => hstart.launch (hspares _ cwd start.files))
    (Action.Keeps.holdsAt fun _ _ => Action.keeps_makeDirectories _ _) units

end SnippetCheck
