import SnippetCheck.Proofs.Compiler.Tandem
import SnippetCheck.Proofs.Files.Beside
import SnippetCheck.Proofs.Run.Siblings

/-!
# Sessions Beside Others

What is assumed of the commands of a session, so that it goes beside what somebody else does within
a territory (`Session.beside_compile`): the command that exports the classpath is independent of the
territory (`Exporter.Independent`), and the compiler is disciplined (`Session.Disciplined`), which
means that it does not look at anything but its source, its classpath and its directory of classes,
and changes nothing outside that directory.
-/

namespace SnippetCheck

open Action Files Workspace

/-- Whatever a machine runs leaves trees as file systems have them. -/
def Machine.KeepsProper (machine : Machine) : Prop :=
  ∀ command cwd files, files.Proper → (machine.run command cwd files).2.Proper

/-- A machine that reads leaves every tree as it is. -/
theorem Machine.keepsProper_reading (judge : ByteArray → Finished) :
    (Machine.reading judge).KeepsProper :=
  fun command cwd files hproper => by rwa [Machine.run_reading]

namespace Compiler

/-! ## Disciplined commands -/

/-- The command that exports the classpath does not depend on what is done within a territory: in
trees that differ by that it ends the same, and the classpath that is read is the same. It changes
nothing but what it scratches, and of that, its products are the same afterwards. -/
structure Exporter.Independent (exporter : Exporter) (machine : Machine) (version : SdkVersion)
    (cwd : Location) (territory : Territory) (scratch products : Set Location) : Prop where
  leaves : ∀ command ∈ exporter.commands version, ∀ files : Tree, files.Proper →
    ∀ location ∉ scratch,
      (machine.run command cwd files).2.get? location = files.get? location
  ends : ∀ command ∈ exporter.commands version, ∀ files other : Tree, files.Proper →
    other.Proper → territory.Allows files other →
      (machine.run command cwd other).1 = (machine.run command cwd files).1
  makes : ∀ command ∈ exporter.commands version, ∀ files other : Tree, files.Proper →
    other.Proper → territory.Allows files other → ∀ location ∈ products,
      (machine.run command cwd other).2.get? location =
        (machine.run command cwd files).2.get? location
  output : ∀ command ∈ exporter.commands version, ∀ files other : Tree, files.Proper →
    other.Proper → territory.Allows files other → ∀ path, exporter.output = some path →
      ((machine.run command cwd other).2.readText cwd path).toOption =
        ((machine.run command cwd files).2.readText cwd path).toOption

namespace Session

/-- Two trees look the same to a compiler that is called for a source against a classpath: its
source is the same, and so is what stands at and below its directory of classes and the entries of
its classpath. -/
structure LooksSame (session : Session) (cwd : Location) (classpath source : String)
    (files other : Tree) : Prop where
  source : other.node cwd source = files.node cwd source
  entries : ∀ path ∈ session.classesDir :: classpathEntries classpath,
    other.node cwd path = files.node cwd path ∧
      ∀ location, target cwd path <+: location → other.get? location = files.get? location

/-- A compiler is disciplined when it ends the same in trees that look the same to it, and makes the
same in its directory of classes. It changes nothing outside that directory, and puts no file where
files are barred. -/
structure Disciplined (session : Session) (machine : Machine) (cwd : Location)
    (barred : Set Location) : Prop where
  ends : ∀ classpath source, ∀ files other : Tree, files.Proper → other.Proper →
    session.LooksSame cwd classpath source files other →
      (machine.run (session.command classpath source) cwd other).1 =
        (machine.run (session.command classpath source) cwd files).1
  makes : ∀ classpath source, ∀ files other : Tree, files.Proper → other.Proper →
    session.LooksSame cwd classpath source files other →
      ∀ location, target cwd session.classesDir <+: location →
        (machine.run (session.command classpath source) cwd other).2.get? location =
          (machine.run (session.command classpath source) cwd files).2.get? location
  leaves : ∀ classpath source, ∀ files : Tree, files.Proper →
    ∀ location, ¬ target cwd session.classesDir <+: location →
      (machine.run (session.command classpath source) cwd files).2.get? location =
        files.get? location
  bars : ∀ classpath source, ∀ files : Tree, files.Proper → ∀ location ∈ barred,
    files.fileAt? location = none →
      (machine.run (session.command classpath source) cwd files).2.fileAt? location = none

end Session

/-- A compiler that only reads its source is disciplined. -/
theorem Session.disciplined_reading (session : Session) (judge : ByteArray → Finished)
    (cwd : Location) (barred : Set Location) :
    session.Disciplined (.reading judge) cwd barred where
  ends classpath source files other _ _ hsame := by
    simp only [Machine.reading, getLast?_args_command, Tree.readBytes, hsame.source]
    cases files.node cwd source with
    | error refusal => rfl
    | ok node => cases node <;> rfl
  makes classpath source files other _ _ hsame location hinside := by
    rw [Machine.run_reading, Machine.run_reading]
    exact (hsame.entries session.classesDir List.mem_cons_self).2 location hinside
  leaves classpath source files _ location _ := by rw [Machine.run_reading]
  bars classpath source files _ location _ hnone := by rwa [Machine.run_reading]

variable {machine : Machine} {version : SdkVersion} {cwd : Location} {territory : Territory}
  {scratch products : Set Location} {session : Session}

/-! ## Staying within a territory -/

/-- What a disciplined compiler does is allowed by a territory that has the directory of classes, if
no file has stood there where files are barred. -/
theorem Session.Disciplined.allows {origin files : Tree}
    (h : session.Disciplined machine cwd territory.barred)
    (hown : ∀ location, target cwd session.classesDir <+: location → location ∈ territory.own)
    (hbarred : ∀ location, target cwd session.classesDir <+: location →
      location ∈ territory.barred → origin.fileAt? location = none)
    (hfiles : files.Proper) (hallows : territory.Allows origin files) (classpath source : String) :
    territory.Allows files (machine.run (session.command classpath source) cwd files).2 := by
  intro location
  by_cases hinside : target cwd session.classesDir <+: location
  · refine .own (hown location hinside) fun hbar => h.bars _ _ _ hfiles location hbar ?_
    exact hallows.fileAt?_eq_none hbar (hbarred location hinside hbar)
  · exact .same (h.leaves _ _ _ hfiles location hinside)

/-! ## Going beside a territory -/

/-- What stands beside other workspaces with less in between does so with more. -/
private theorem beside_of_excluding {workspace other : Workspace}
    (h : workspace.Beside cwd (territory.excluding products) other) :
    workspace.Beside cwd territory other :=
  ⟨h.first, h.second, h.allows.mono subset_rfl (fun _ hmem => hmem.1) subset_rfl⟩

/-- The classpath is exported beside others. The products of the command are the same afterwards. -/
private theorem Exporter.tandem_run_beside {exporter : Exporter} (hproper : machine.KeepsProper)
    (h : exporter.Independent machine version cwd territory scratch products)
    (hscratch : ∀ location ∈ scratch, location ∈ territory.own ∧ location ∉ territory.barred) :
    (exporter.run machine version).Tandem (Beside cwd territory) Eq
      (Beside cwd (territory.excluding products)) (Beside cwd territory) := by
  refine Exporter.tandem_run (fun _ _ h => h) (fun _ _ => beside_of_excluding)
    fun command hcommand workspace other hbeside => ?_
  have hfirst := hbeside.first
  have hsecond := hbeside.second
  have hallows : (territory.excluding products).Allows
      (machine.run command cwd workspace.files).2 (machine.run command cwd other.files).2 := by
    intro location
    by_cases hproduct : location ∈ products
    · exact .same (h.makes command hcommand _ _ hfirst.proper hsecond.proper hbeside.allows location
        hproduct)
    by_cases hmem : location ∈ scratch
    · obtain ⟨hown, hfree⟩ := hscratch location hmem
      exact .own ⟨hown, hproduct⟩ fun hbar => absurd hbar hfree
    · refine Territory.AllowsAt.congr ?_ (h.leaves command hcommand _ hfirst.proper location hmem)
        (h.leaves command hcommand _ hsecond.proper location hmem)
      cases hbeside.allows location with
      | same hsame => exact .same hsame
      | made hway hnone hmade => exact .made hway hnone hmade
      | own hown hbar => exact .own ⟨hown, hproduct⟩ hbar
  obtain ⟨hfinished, hlaunched⟩ := hbeside.launch (hproper command cwd)
    (h.ends command hcommand _ _ hfirst.proper hsecond.proper hbeside.allows) hallows
  rw [exec_launch, exec_launch]
  refine .ok hfinished.symm ⟨hlaunched, fun path hpath => ?_⟩
  have houtput := h.output command hcommand _ _ hfirst.proper hsecond.proper hbeside.allows path
    hpath
  rwa [Workspace.readText, Workspace.readText, hlaunched.first.cwd, hlaunched.second.cwd,
    Workspace.launch, Workspace.launch, hfirst.cwd, hsecond.cwd]

namespace Session

/-- A session is clear of a territory: nothing that it looks at or changes belongs to the territory,
but for what the command that exports the classpath scratches. This command is independent of the
territory, and its products may be looked at. -/
structure ClearOf (session : Session) (machine : Machine) (version : SdkVersion) (cwd : Location)
    (territory : Territory) (scratch products : Set Location) : Prop where
  start : ∀ path, start cwd path ∉ territory.ways
  classes : territory.Clears cwd session.classesDir
  base : (territory.excluding products).Spares cwd session.baseSource
  entries : ∀ start classpath final, start.ProperAt cwd →
    (session.classpath.resolve machine version).Yields start classpath final →
      ∀ entry ∈ classpathEntries (session.unitClasspath classpath),
        (territory.excluding products).Clears cwd entry
  exporter : ∀ exporter, session.classpath.exporter = some exporter →
    exporter.Independent machine version cwd territory scratch products
  scratched : ∀ location ∈ scratch, location ∈ territory.own ∧ location ∉ territory.barred
  known : session.classpath.exporter = none → products = ∅

/-- The entries of a classpath are entries of the classpath of every unit. -/
private theorem mem_classpathEntries_unitClasspath {classpath entry : String}
    (h : entry ∈ classpathEntries classpath) :
    entry ∈ classpathEntries (session.unitClasspath classpath) := by
  have hchars : (session.unitClasspath classpath).toList =
      classpath.toList ++ separator :: session.classesDir.toList := by
    simp [unitClasspath]
  rw [classpathEntries, hchars, Text.splitAt_append_cons, List.map_append]
  exact List.mem_append_left _ h

/-- A territory that is clear of a directory of classes and of the entries of a classpath changes
nothing that a compiler can look at, if it does not change the source. -/
private theorem looksSame_of_clears {classpath source : String} {files other : Tree}
    (hallows : territory.Allows files other) (hproper : files.Proper)
    (hentries : ∀ path ∈ session.classesDir :: classpathEntries classpath,
      territory.Clears cwd path)
    (hsource : other.node cwd source = files.node cwd source) :
    session.LooksSame cwd classpath source files other where
  source := hsource
  entries path hpath := (hentries path hpath).same hallows hproper

/-- A disciplined compiler is called in tandem if it looks the same to it. -/
private theorem Disciplined.launchAlike {barred : Set Location} {classpath source : String}
    {workspace other : Workspace} {failed : Workspace → Workspace → Prop}
    (h : session.Disciplined machine cwd barred) (hproper : machine.KeepsProper)
    (hbeside : workspace.Beside cwd territory other)
    (hsame : session.LooksSame cwd classpath source workspace.files other.files) :
    session.LaunchAlike machine (Beside cwd territory) failed classpath source workspace other := by
  have hfirst := hbeside.first.proper
  have hsecond := hbeside.second.proper
  have hallows : territory.Allows
      (machine.run (session.command classpath source) cwd workspace.files).2
      (machine.run (session.command classpath source) cwd other.files).2 := by
    intro location
    by_cases hinside : target cwd session.classesDir <+: location
    · exact .same (h.makes _ _ _ _ hfirst hsecond hsame location hinside)
    · exact (hbeside.allows location).congr (h.leaves _ _ _ hfirst location hinside)
        (h.leaves _ _ _ hsecond location hinside)
  obtain ⟨hfinished, hlaunched⟩ := hbeside.launch (hproper _ cwd)
    (h.ends _ _ _ _ hfirst hsecond hsame) hallows
  unfold LaunchAlike
  rw [exec_launch, exec_launch]
  exact .ok hfinished.symm hlaunched

/-- A disciplined session that is clear of a territory compiles units beside others, if the
territory spares their sources. -/
theorem beside_compile {barred : Set Location} {units : List SourceUnit}
    (hclear : session.ClearOf machine version cwd territory scratch products)
    (hdisciplined : session.Disciplined machine cwd barred) (hproper : machine.KeepsProper)
    (hunits : ∀ sourceUnit ∈ units,
      territory.Spares cwd (sourceUnit.pathIn session.generatedDir) ∧
        target cwd (sourceUnit.pathIn session.generatedDir) ∉ territory.ways) :
    (session.compile machine version units).GoesBeside cwd territory := by
  have hclasses : (territory.excluding products).Clears cwd session.classesDir :=
    { hclear.classes.toSpares.excluding products with
      own_below := fun location hbelow hmem => hclear.classes.own_below location hbelow hmem.1
      ways_below := hclear.classes.ways_below }
  -- of the classpath that is found, its entries are clear
  have hresolve : (session.classpath.resolve machine version).Tandem (Beside cwd territory)
      (fun found found' => found = found' ∧ ∀ entry ∈
        classpathEntries (session.unitClasspath found),
          (territory.excluding products).Clears cwd entry)
      (Beside cwd (territory.excluding products)) (Beside cwd territory) := by
    intro workspace other hbeside
    refine (Classpath.tandem_resolve (fun _ _ => beside_of_excluding) (fun hnone _ _ h => ?_)
      (fun exporter hexporter => Exporter.tandem_run_beside hproper
        (hclear.exporter exporter hexporter) hclear.scratched) workspace other hbeside).and_yields
      fun found final hyields => hclear.entries workspace found final hbeside.first hyields
    rw [hclear.known hnone]
    exact ⟨h.first, h.second,
      h.allows.mono subset_rfl (fun _ hmem => ⟨hmem, fun h => h⟩) subset_rfl⟩
  have hmake : (makeDirectories session.classesDir
      (CompileError.notPrepared session.classesDir)).GoesBeside cwd
        (territory.excluding products) :=
    beside_makeDirectories _ (hclear.start _) hclasses.own
  refine tandem_compile_of_parts (fun _ _ => beside_of_excluding) (fun _ _ h => h)
    (fun _ _ => beside_of_excluding) hresolve
    (fun workspace other hbeside => (hmake workspace other hbeside).imp (fun _ _ h => h)
      (fun _ _ h => h) fun _ _ => beside_of_excluding)
    (fun classpath hentries workspace other hbeside => ?_)
    fun classpath hentries sourceUnit hmem workspace other hbeside => ?_
  · have hfirst := hbeside.first
    have hfile := hclear.base.isFile_eq hbeside.allows hfirst.proper
    rw [Workspace.isFile, Workspace.isFile, hfirst.cwd, hbeside.second.cwd]
    refine ⟨hfile, fun hpresent => hdisciplined.launchAlike hproper hbeside ?_⟩
    refine looksSame_of_clears hbeside.allows hfirst.proper ?_ ?_
    · exact List.forall_mem_cons.2 ⟨hclasses, fun entry hentry =>
        hentries entry (mem_classpathEntries_unitClasspath hentry)⟩
    · -- what is a file is no directory that somebody else has made
      obtain ⟨bytes, hnode⟩ := Tree.isFile_iff.1 hpresent
      rcases hclear.base.node_eq_or hbeside.allows hfirst.proper with hsame | ⟨-, -, hmissing, -⟩
      · exact hsame
      · rw [hmissing] at hnode
        cases hnode
  · obtain ⟨hspares, htarget⟩ := hunits sourceUnit hmem
    refine hdisciplined.launchAlike hproper hbeside ?_
    refine looksSame_of_clears hbeside.allows hbeside.first.proper
      (List.forall_mem_cons.2 ⟨hclasses, hentries⟩) ?_
    exact (hspares.excluding products).node_eq hbeside.allows hbeside.first.proper htarget

end Session

end Compiler

end SnippetCheck
