import Mathlib.Data.Set.Function
import SnippetCheck.Proofs.Run.Compile

/-!
# Siblings

The units of a session are compiled into one directory that is on the classpath of each of them, so
that a unit can find the classes of units that were compiled before it
(`Siblings.results_depend_on_siblings`). Units are apart when no process of one changes anything on
which the end of the process of another depends (`Session.Apart`). Then each of them is found what
it would be found alone, in whichever order they are compiled, and whichever of them are cached
(`Phase.results_of_apart`).
-/

namespace SnippetCheck

open Action Files
open Compiler.Session (freshResults)

namespace Compiler.Session

variable {session : Session} {machine : Machine} {classpath : String} {prepared : Workspace}
  {units : List SourceUnit} {consults : SourceUnit → Set Location}

/-- What the process of a unit finds right after the preparation. -/
def alone (session : Session) (machine : Machine) (classpath : String) (prepared : Workspace)
    (sourceUnit : SourceUnit) : List String :=
  match (prepared.launch machine (session.unitCommand classpath sourceUnit)).1 with
  | some finished => session.resultFor sourceUnit finished
  | none => []

/-- Units are apart when the end of the process of each depends on what it consults only, and no
process of another changes anything there. -/
structure Apart (session : Session) (machine : Machine) (classpath : String) (prepared : Workspace)
    (units : List SourceUnit) (consults : SourceUnit → Set Location) : Prop where
  ends : ∀ sourceUnit ∈ units, ∀ files : Tree,
    Set.EqOn files.get? prepared.files.get? (consults sourceUnit) →
    (machine.run (session.unitCommand classpath sourceUnit) prepared.cwd files).1 =
      (machine.run (session.unitCommand classpath sourceUnit) prepared.cwd prepared.files).1
  leaves : ∀ sourceUnit ∈ units, ∀ other ∈ units, other ≠ sourceUnit → ∀ files : Tree,
    Set.EqOn files.get? prepared.files.get? (consults other) →
    Set.EqOn (machine.run (session.unitCommand classpath other) prepared.cwd files).2.get?
      files.get? (consults sourceUnit)

/-- The directories and files on a classpath. -/
def classpathEntries (classpath : String) : List String :=
  (Text.splitAt separator classpath.toList).map String.ofList

/-- Where a compiler may look: at its source, and at what stands at or below the entries of its
classpath. -/
def Sees (classpath source : String) (cwd : Location) : Set Location :=
  {location | location = target cwd source ∨
    ∃ entry ∈ classpathEntries classpath, target cwd entry <+: location}

/-- A compiler is confined when all that its processes do depends on what they may look at, and they
change nothing but what is below the directory of classes. -/
structure Confines (session : Session) (machine : Machine) : Prop where
  ends : ∀ classpath source cwd (files other : Tree),
    Set.EqOn files.get? other.get? (Sees classpath source cwd) →
    (machine.run (session.command classpath source) cwd files).1 =
      (machine.run (session.command classpath source) cwd other).1
  makes : ∀ classpath source cwd (files other : Tree) location,
    Set.EqOn files.get? other.get? (Sees classpath source cwd) →
    ((machine.run (session.command classpath source) cwd files).2.get? location =
        files.get? location ∧
      (machine.run (session.command classpath source) cwd other).2.get? location =
        other.get? location) ∨
    (machine.run (session.command classpath source) cwd files).2.get? location =
      (machine.run (session.command classpath source) cwd other).2.get? location
  leaves : ∀ classpath source cwd (files : Tree) location,
    ¬ target cwd session.classesDir <+: location →
    (machine.run (session.command classpath source) cwd files).2.get? location =
      files.get? location

/-- When a compiler is confined, units are apart if the end of the process of each depends on what
is outside the directory of classes only. -/
theorem Confines.apart (hconfines : session.Confines machine)
    (hends : ∀ sourceUnit ∈ units, ∀ files : Tree,
      Set.EqOn files.get? prepared.files.get? (consults sourceUnit) →
      (machine.run (session.unitCommand classpath sourceUnit) prepared.cwd files).1 =
        (machine.run (session.unitCommand classpath sourceUnit) prepared.cwd prepared.files).1)
    (houtside : ∀ sourceUnit ∈ units, ∀ location ∈ consults sourceUnit,
      ¬ target prepared.cwd session.classesDir <+: location) :
    session.Apart machine classpath prepared units consults where
  ends := hends
  leaves sourceUnit hmem _ _ _ files _ location hlocation :=
    hconfines.leaves _ _ _ files location (houtside sourceUnit hmem location hlocation)

/-- Units that are apart are found what they would be found alone, one after the other. -/
theorem compileUnits_of_apart (hapart : session.Apart machine classpath prepared units consults)
    {order : List SourceUnit} (horder : order ⊆ units) (hnodup : order.Nodup)
    {start final : Workspace} {results : List (String × List String)}
    (hcwd : start.cwd = prepared.cwd)
    (hconsults : ∀ sourceUnit ∈ order,
      Set.EqOn start.files.get? prepared.files.get? (consults sourceUnit))
    (h : (session.compileUnits machine classpath order).Yields start results final) :
    results = freshResults (session.alone machine classpath prepared) order := by
  induction order generalizing start results with
  | nil => exact (yields_pure.1 h).1
  | cons sourceUnit order ih =>
    obtain ⟨hmem, hrest⟩ := List.nodup_cons.1 hnodup
    obtain ⟨hunit, hunits⟩ := List.cons_subset.1 horder
    obtain ⟨finished, between, later, hlaunch, hlater, rfl⟩ := compileUnits_cons_yields h
    have hsame := hconsults sourceUnit List.mem_cons_self
    -- the process ends as it would have ended right after the preparation
    have hend : (prepared.launch machine (session.unitCommand classpath sourceUnit)).1 =
        some finished := by
      have hstart : (start.launch machine (session.unitCommand classpath sourceUnit)).1 =
          some finished := by rw [hlaunch]
      rw [← hstart, Workspace.launch, Workspace.launch, hcwd]
      exact (hapart.ends sourceUnit hunit start.files hsame).symm
    have halone : session.alone machine classpath prepared sourceUnit =
        session.resultFor sourceUnit finished := by rw [alone, hend]
    -- and what the other units consult is still as it was
    have hkept : ∀ other ∈ order,
        Set.EqOn between.files.get? prepared.files.get? (consults other) := by
      intro other hother
      have hne : sourceUnit ≠ other := fun heq => hmem (heq ▸ hother)
      have hleft := hapart.leaves other (hunits hother) sourceUnit hunit hne start.files hsame
      have hfiles : between.files =
          (machine.run (session.unitCommand classpath sourceUnit) prepared.cwd start.files).2 := by
        rw [← hcwd]
        exact (congrArg (fun launched => launched.2.files) hlaunch).symm
      rw [hfiles]
      exact hleft.trans (hconsults other (List.mem_cons_of_mem sourceUnit hother))
    have hcwd' : between.cwd = prepared.cwd := by
      rw [← hcwd]
      exact (congrArg (fun launched => launched.2.cwd) hlaunch).symm
    rw [ih hunits hrest hcwd' hkept hlater, freshResults, freshResults, List.map_cons, halone]

/-- A session finds units that are apart what they would be found alone. -/
theorem compile_of_apart {version : SdkVersion} {start : Workspace}
    (hprepare : (session.prepare machine version).Yields start classpath prepared)
    (hapart : session.Apart machine classpath prepared units consults)
    {order : List SourceUnit} (horder : order ⊆ units) (hnodup : order.Nodup)
    {final : Workspace} {results : List (String × List String)}
    (h : (session.compile machine version order).Yields start results final) :
    results = freshResults (session.alone machine classpath prepared) order := by
  by_cases hnil : order = []
  · subst hnil
    exact (yields_pure.1 h).1
  · rw [compile_eq_prepare_bind version hnil] at h
    obtain ⟨found, between, hfound, hcompile⟩ := yields_bind.1 h
    obtain ⟨rfl, rfl⟩ := hprepare.unique hfound
    exact compileUnits_of_apart hapart horder hnodup rfl (fun _ _ => fun _ _ => rfl) hcompile

end Compiler.Session

namespace Phase

/-- What stands under different keys is found in any order. -/
private theorem lookup_eq_of_perm {β : Type} {entries other : List (String × β)}
    (hperm : entries.Perm other) (hkeys : (entries.map Prod.fst).Nodup) (key : String) :
    entries.lookup key = other.lookup key := by
  -- only a swap needs that the keys differ
  induction hperm with
  | nil => rfl
  | cons entry _ ih =>
    obtain ⟨name, value⟩ := entry
    rw [List.lookup_cons, List.lookup_cons, ih (List.nodup_cons.1 hkeys).2]
  | swap first second entries =>
    obtain ⟨name, value⟩ := first
    obtain ⟨name', value'⟩ := second
    have hne : name' ≠ name := fun heq =>
      (List.nodup_cons.1 hkeys).1 (heq ▸ List.mem_cons_self)
    simp only [List.lookup_cons]
    by_cases hname : key = name
    · have hfalse : (key == name') = false := beq_eq_false_iff_ne.2 (hname ▸ hne.symm)
      rw [hfalse]
    · have hfalse : (key == name) = false := beq_eq_false_iff_ne.2 hname
      rw [hfalse]
  | trans hfirst _ ih ih' =>
    exact (ih hkeys).trans (ih' ((hfirst.map Prod.fst).nodup_iff.1 hkeys))

/-- The outcomes do not depend on the order in which results were found, if these are for different
class names. -/
theorem outcomes_of_perm {cache : Cache} {units : List SourceUnit}
    {fresh other : List (String × List String)} (hperm : fresh.Perm other)
    (hkeys : (fresh.map Prod.fst).Nodup) :
    outcomes cache units fresh = outcomes cache units other := by
  induction units generalizing fresh other with
  | nil => rfl
  | cons sourceUnit units ih =>
    have hlookup : fresh.reverse.lookup sourceUnit.className =
        other.reverse.lookup sourceUnit.className := by
      refine lookup_eq_of_perm
        ((List.reverse_perm fresh).trans (hperm.trans (List.reverse_perm other).symm)) ?_ _
      rw [List.map_reverse, List.nodup_reverse]
      exact hkeys
    rw [outcomes, outcomes, hlookup]
    split
    · rw [ih (hperm.filter _) (hkeys.sublist (List.filter_sublist.map _))]
    · rw [ih hperm hkeys]

/-- When units are apart, compiling those of them that a cache does not know finds for each what
would be found for it alone, in whichever order they are compiled. If their class names are
distinct, it settles all of them by that. -/
theorem results_of_apart {session : Compiler.Session} {machine : Machine} {version : SdkVersion}
    {classpath : String} {start prepared final : Workspace} {units chosen order : List SourceUnit}
    {consults : SourceUnit → Set Location} {cache : Cache} {fresh : List (String × List String)}
    (hprepare : (session.prepare machine version).Yields start classpath prepared)
    (hapart : session.Apart machine classpath prepared units consults)
    (hchosen : chosen ⊆ units) (hnodup : chosen.Nodup)
    (horder : order.Perm (pending cache chosen))
    (h : (session.compile machine version order).Yields start fresh final) :
    fresh = freshResults (session.alone machine classpath prepared) order ∧
      ((chosen.map SourceUnit.className).Nodup → outcomes cache chosen fresh =
        chosen.map (settle cache (session.alone machine classpath prepared))) := by
  have hsubset : order ⊆ units := fun sourceUnit hmem =>
    hchosen ((pending_sublist cache chosen).subset (horder.subset hmem))
  have horderNodup : order.Nodup :=
    horder.nodup_iff.2 (hnodup.sublist (pending_sublist cache chosen))
  obtain rfl := Compiler.Session.compile_of_apart hprepare hapart hsubset horderNodup h
  refine ⟨rfl, fun hnames => ?_⟩
  -- the results come in another order, under the same names
  have hkeys : ((freshResults (session.alone machine classpath prepared) order).map
      Prod.fst).Nodup := by
    rw [freshResults, List.map_map]
    exact (horder.map SourceUnit.className).nodup_iff.2
      (hnames.sublist ((pending_sublist cache chosen).map _))
  have hperm : (freshResults (session.alone machine classpath prepared) order).Perm
      (freshResults (session.alone machine classpath prepared) (pending cache chosen)) :=
    horder.map _
  rw [outcomes_of_perm hperm hkeys, outcomes_map_pending _ _ hnames]

end Phase

/-! ## A compiler that shares a class -/

namespace Siblings

open Compiler Compiler.Session
open Phase (sampleVersion)

/-- Where the shared class stands in a directory. -/
def sharedClass (cwd : Location) (dir : String) : Location :=
  target cwd dir ++ ["Shared.class"]

/-- The bytes of the file that a path leads to, if there is one. -/
def bytesAt (cwd : Location) (files : Tree) (path : String) : ByteArray :=
  (files.fileAt? (target cwd path)).getD .empty

/-- Whether the shared class is nowhere on a classpath. -/
def isMissing (cwd : Location) (files : Tree) (classpath : String) : Bool :=
  (classpathEntries classpath).all fun entry => (files.get? (sharedClass cwd entry)).isNone

/-- A compiler with one shared class. A source with an exclamation mark defines it; one with a
question mark fails unless it is on the classpath. -/
def sharing : Machine where
  run command cwd files :=
    match command.args with
    | [_, classpath, _, dir, source] =>
      if (bytesAt cwd files source).data.contains 0x21 then
        (some ⟨.code 0, [], []⟩, files.set (sharedClass cwd dir) (.file .empty))
      else if (bytesAt cwd files source).data.contains 0x3F && isMissing cwd files classpath then
        (some ⟨.code 1, [], []⟩, files)
      else (some ⟨.code 0, [], []⟩, files)
    | _ => (none, files)

/-- A session for this compiler. -/
def sampleSession : Session where
  convention := .of .kotlin
  toolchain := ⟨"kotlinc", []⟩
  classpath := ⟨none, ["sdk.jar"]⟩
  baseSource := "Base.kt"
  generatedDir := "gen"
  classesDir := "classes"

/-- What the compiler does for a source. -/
theorem run_sharing (classpath source : String) (cwd : Location) (files : Tree) :
    sharing.run (sampleSession.command classpath source) cwd files =
      if (bytesAt cwd files source).data.contains 0x21 then
        (some ⟨.code 0, [], []⟩, files.set (sharedClass cwd "classes") (.file .empty))
      else if (bytesAt cwd files source).data.contains 0x3F && isMissing cwd files classpath then
        (some ⟨.code 1, [], []⟩, files)
      else (some ⟨.code 0, [], []⟩, files) := rfl

section Sees

variable {classpath source : String} {cwd : Location} {files other : Tree}
  (hsame : Set.EqOn files.get? other.get? (Sees classpath source cwd))
include hsame

/-- The compiler reads the source that it may look at. -/
private theorem bytesAt_eq_of_sees : bytesAt cwd files source = bytesAt cwd other source := by
  rw [bytesAt, bytesAt, Tree.fileAt?_congr (hsame (.inl rfl))]

/-- It looks for the shared class where it may look. -/
private theorem isMissing_eq_of_sees :
    isMissing cwd files classpath = isMissing cwd other classpath := by
  rw [Bool.eq_iff_iff, isMissing, isMissing, List.all_eq_true, List.all_eq_true]
  refine forall₂_congr fun entry hentry => ?_
  have hentrySame : files.get? (sharedClass cwd entry) = other.get? (sharedClass cwd entry) :=
    hsame (.inr ⟨entry, hentry, List.prefix_append _ _⟩)
  rw [hentrySame]

end Sees

/-- The shared class stands in the directory that it was put into. -/
private theorem ne_sharedClass {cwd location : Location} {dir : String}
    (h : ¬ target cwd dir <+: location) : location ≠ sharedClass cwd dir := by
  rintro rfl
  exact h (List.prefix_append _ _)

/-- The compiler is confined. -/
theorem confines_sharing : sampleSession.Confines sharing where
  ends classpath source cwd files other hsame := by
    rw [run_sharing, run_sharing, bytesAt_eq_of_sees hsame, isMissing_eq_of_sees hsame]
    split
    · rfl
    · split <;> rfl
  makes classpath source cwd files other location hsame := by
    rw [run_sharing, run_sharing, bytesAt_eq_of_sees hsame, isMissing_eq_of_sees hsame]
    split
    · by_cases hlocation : location = sharedClass cwd "classes"
      · have hne : sharedClass cwd "classes" ≠ [] := by simp [sharedClass]
        rw [hlocation, Tree.get?_set_self _ _ hne, Tree.get?_set_self _ _ hne]
        exact .inr rfl
      · exact .inl ⟨Tree.get?_set_of_ne _ _ hlocation, Tree.get?_set_of_ne _ _ hlocation⟩
    · split <;> exact .inl ⟨rfl, rfl⟩
  leaves classpath source cwd files location houtside := by
    rw [run_sharing]
    split
    · exact Tree.get?_set_of_ne _ _ (ne_sharedClass houtside)
    · split <;> rfl

/-- A unit for a source. -/
def unitOf (className source : String) : SourceUnit :=
  ⟨⟨⟨"a.md", 0⟩, source⟩, className, source, "kt"⟩

/-- A workspace with the sources of three units: the first defines the shared class, the second
needs it, and the third does neither. -/
def sampleStart : Workspace where
  files := ⟨[(["Base.kt"], .file "".toUTF8), (["gen"], .directory),
    (["gen", "A.kt"], .file "!".toUTF8), (["gen", "B.kt"], .file "?".toUTF8),
    (["gen", "C.kt"], .file ".".toUTF8)]⟩

/-- What the session finds for some units there. -/
def resultsFor (units : List SourceUnit) : Option (List (String × List String)) :=
  ((sampleSession.compile sharing sampleVersion units).exec sampleStart).1.toOption

/-- Though the compiler is confined, what is found for a unit that needs the shared class depends on
whether the unit that defines it was compiled before, was compiled later, or was not compiled. -/
theorem results_depend_on_siblings :
    sampleSession.Confines sharing ∧
      resultsFor [unitOf "A" "!", unitOf "B" "?"] = some [("A", []), ("B", [])] ∧
      resultsFor [unitOf "B" "?", unitOf "A" "!"] =
        some [("B", ["  compiler exited with exit status: 1"]), ("A", [])] ∧
      resultsFor [unitOf "B" "?"] =
        some [("B", ["  compiler exited with exit status: 1"])] := by
  refine ⟨confines_sharing, ?_⟩
  decide +kernel

/-- The workspace after the preparation. -/
def samplePrepared : Workspace where
  files := ⟨(["classes"], .directory) :: sampleStart.files.entries⟩
  launches := [sampleSession.command "sdk.jar" "Base.kt"]

/-- The session can be prepared. -/
private theorem prepare_yields :
    (sampleSession.prepare sharing sampleVersion).Yields sampleStart "sdk.jar" samplePrepared :=
  yields_of_exec (by decide +kernel) (by decide +kernel)

/-- A source that needs nothing compiles. -/
private theorem run_sharing_fst {classpath source : String} {cwd : Location} {files : Tree}
    (h : ((bytesAt cwd files source).data.contains 0x21 ||
      !(bytesAt cwd files source).data.contains 0x3F) = true) :
    (sharing.run (sampleSession.command classpath source) cwd files).1 =
      some ⟨.code 0, [], []⟩ := by
  rw [run_sharing]
  split
  next => rfl
  next hdefines =>
    rw [Bool.eq_false_iff.2 hdefines, Bool.false_or, Bool.not_eq_true'] at h
    rw [h]
    rfl

/-- The first and the third unit are apart: each consults its own source only. -/
private theorem apart_sharing :
    sampleSession.Apart sharing "sdk.jar" samplePrepared [unitOf "A" "!", unitOf "C" "."]
      (fun sourceUnit => {target [] (sourceUnit.pathIn "gen")}) := by
  refine confines_sharing.apart (fun sourceUnit hmem files hsame => ?_) ?_
  · have hbytes : bytesAt [] files (sourceUnit.pathIn "gen") =
        bytesAt [] samplePrepared.files (sourceUnit.pathIn "gen") := by
      rw [bytesAt, bytesAt, Tree.fileAt?_congr (hsame (Set.mem_singleton _))]
    have hplain : ∀ sourceUnit ∈ [unitOf "A" "!", unitOf "C" "."],
        ((bytesAt [] samplePrepared.files (sourceUnit.pathIn "gen")).data.contains 0x21 ||
          !(bytesAt [] samplePrepared.files (sourceUnit.pathIn "gen")).data.contains 0x3F) =
            true := by
      decide +kernel
    have hprepared := hplain sourceUnit hmem
    have hfiles := hprepared
    rw [← hbytes] at hfiles
    exact (run_sharing_fst hfiles).trans (run_sharing_fst hprepared).symm
  · have houtside : ∀ sourceUnit ∈ [unitOf "A" "!", unitOf "C" "."],
        ¬ target [] "classes" <+: target [] (sourceUnit.pathIn "gen") := by
      decide +kernel
    rintro sourceUnit hmem location (hlocation : location = target [] (sourceUnit.pathIn "gen"))
    rw [hlocation]
    exact houtside sourceUnit hmem

end Siblings

open Siblings Phase in
/-- The first and the third unit are settled alike in the other order. -/
theorem results_of_apart_sharing :
    ∃ fresh final, (sampleSession.compile sharing sampleVersion
        [unitOf "C" ".", unitOf "A" "!"]).Yields sampleStart fresh final ∧
      Phase.outcomes .empty [unitOf "A" "!", unitOf "C" "."] fresh =
        [unitOf "A" "!", unitOf "C" "."].map (Phase.settle .empty
          (sampleSession.alone sharing "sdk.jar" samplePrepared)) := by
  obtain ⟨fresh, final, hyields⟩ := exists_yields
    (show ((sampleSession.compile sharing sampleVersion
      [unitOf "C" ".", unitOf "A" "!"]).exec sampleStart).1.isOk = true by decide +kernel)
  have horder : [unitOf "C" ".", unitOf "A" "!"].Perm
      (Phase.pending .empty [unitOf "A" "!", unitOf "C" "."]) := List.Perm.swap _ _ _
  obtain ⟨-, houtcomes⟩ := Phase.results_of_apart prepare_yields apart_sharing
    (List.Subset.refl _) (by decide) horder hyields
  exact ⟨fresh, final, hyields, houtcomes (by decide)⟩

end SnippetCheck
