import SnippetCheck.Proofs.Compiler.Session

/-!
# The Commands Of A Session

What a session launches is fixed by its classpath and its units (`Session.commands`): the command
that exports the classpath if there is one, then the compiler for the base type, and then the
compiler for each of the units, in their order; nothing at all when there are no units.
-/

namespace SnippetCheck.Compiler

open Action Workspace

/-- What a session launches for some units once it knows the classpath. -/
def Session.commands (session : Session) (version : SdkVersion) (classpath : String)
    (units : List SourceUnit) : List Command :=
  if units = [] then []
  else session.classpath.commands version ++
    session.command classpath session.baseSource :: units.map (session.unitCommand classpath)

variable {machine : Machine} {version : SdkVersion} {start final : Workspace}

/-- An exporter that succeeds has launched its command. -/
private theorem Exporter.launches_run {exporter : Exporter} {text : List Char}
    (h : (exporter.run machine version).Yields start text final) :
    final.launches = start.launches ++ exporter.commands version := by
  unfold Exporter.run at h
  dsimp only at h
  split at h
  next => exact absurd h not_yields_throw
  next program args hline =>
    rw [commands, hline]
    obtain ⟨finished, launched, hlaunch, hrest⟩ := yields_bind.1 h
    have hlaunches : launched.launches =
        start.launches ++ [{ program, args, dir := some exporter.dir }] := by
      rw [← launches_launch machine _ start, yields_launch.1 hlaunch]
    cases finished with
    | none => exact absurd hrest not_yields_throw
    | some finished =>
      dsimp only at hrest
      split at hrest
      next =>
        -- what it exports is read, and reading launches nothing
        unfold Exporter.exported at hrest
        split at hrest
        next => rw [(yields_pure.1 hrest).2, hlaunches]
        next =>
          have hrest := yields_get_bind.1 hrest
          split at hrest
          next => rw [(yields_pure.1 hrest).2, hlaunches]
          next => exact absurd hrest not_yields_throw
      next => exact absurd hrest not_yields_throw

/-- Finding the classpath launches the command that exports it, if there is one. -/
theorem Classpath.launches_resolve {classpath : Classpath} {found : String}
    (h : (classpath.resolve machine version).Yields start found final) :
    final.launches = start.launches ++ classpath.commands version := by
  unfold Classpath.resolve at h
  dsimp only at h
  split at h
  next hexporter =>
    rw [(yields_liftExcept.1 h).2, Classpath.commands, hexporter, List.append_nil]
  next exporter hexporter =>
    obtain ⟨text, between, hrun, hrest⟩ := yields_bind.1 h
    rw [(yields_liftExcept.1 hrest).2, Exporter.launches_run hrun, Classpath.commands, hexporter]

namespace Session

variable {session : Session}

/-- Compiling the base type is one launch. -/
private theorem launches_compileBase {classpath : String} {value : Unit}
    (h : (session.compileBase machine classpath).Yields start value final) :
    final.launches = start.launches ++ [session.command classpath session.baseSource] := by
  unfold compileBase compileFile at h
  have h := yields_get_bind.1 h
  split at h
  next =>
    obtain ⟨errors, launched, hcompile, hrest⟩ := yields_bind.1 h
    obtain ⟨finished, between, hlaunch, hresult⟩ := yields_bind.1 hcompile
    have hlaunches := launches_launch machine (session.command classpath session.baseSource) start
    rw [yields_launch.1 hlaunch] at hlaunches
    cases finished with
    | none => exact absurd hresult not_yields_throw
    | some finished =>
      obtain ⟨-, rfl⟩ := yields_pure.1 hresult
      cases errors with
      | nil => rw [(yields_pure.1 hrest).2, hlaunches]
      | cons => exact absurd hrest not_yields_throw
  next => exact absurd h not_yields_throw

/-- Compiling units is one launch for each, in their order. -/
theorem launches_compileUnits {classpath : String} {units : List SourceUnit}
    {results : List (String × List String)}
    (h : (session.compileUnits machine classpath units).Yields start results final) :
    final.launches = start.launches ++ units.map (session.unitCommand classpath) := by
  induction units generalizing start results with
  | nil => rw [(yields_pure.1 h).2, List.map_nil, List.append_nil]
  | cons sourceUnit units ih =>
    obtain ⟨errors, between, hfirst, hrest⟩ := yields_bind.1 h
    obtain ⟨later, last, hlater, hresults⟩ := yields_bind.1 hrest
    obtain ⟨-, rfl⟩ := yields_pure.1 hresults
    obtain ⟨finished, hlaunch, -⟩ := compileUnit_yields.1 hfirst
    have hlaunches :=
      launches_launch machine (session.unitCommand classpath sourceUnit) start
    rw [hlaunch] at hlaunches
    rw [ih hlater, hlaunches, List.map_cons, List.append_assoc, List.singleton_append]

/-- Preparing launches the command that exports the classpath, if there is one, and the compiler for
the base type. -/
theorem launches_prepare {classpath : String}
    (h : (session.prepare machine version).Yields start classpath final) :
    final.launches = start.launches ++ session.classpath.commands version ++
      [session.command classpath session.baseSource] := by
  obtain ⟨found, resolved, hresolve, hrest⟩ := yields_bind.1 h
  obtain ⟨_, made, hmake, hrest⟩ := yields_bind.1 hrest
  obtain ⟨_, compiled, hbase, hvalue⟩ := yields_bind.1 hrest
  obtain ⟨rfl, rfl⟩ := yields_pure.1 hvalue
  have hmade : made.launches = resolved.launches :=
    (((fileless_cwd_launches resolved.cwd resolved.launches).makeDirectories _ _).of_yields hmake
      ⟨rfl, rfl⟩).2
  rw [launches_compileBase hbase, hmade, Classpath.launches_resolve hresolve]

/-- A session that succeeds has launched its commands. -/
theorem launches_compile {units : List SourceUnit} {results : List (String × List String)}
    (h : (session.compile machine version units).Yields start results final) :
    ∃ classpath, final.launches = start.launches ++ session.commands version classpath units := by
  by_cases hunits : units = []
  · subst hunits
    obtain ⟨-, rfl⟩ := yields_pure.1 h
    exact ⟨"", by simp [commands]⟩
  · rw [compile_eq_prepare_bind version hunits] at h
    obtain ⟨classpath, prepared, hprepare, hcompile⟩ := yields_bind.1 h
    refine ⟨classpath, ?_⟩
    rw [launches_compileUnits hcompile, launches_prepare hprepare, commands, if_neg hunits]
    simp

end Session

end SnippetCheck.Compiler
