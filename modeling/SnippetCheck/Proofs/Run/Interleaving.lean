import SnippetCheck.Proofs.Run.Compile
import SnippetCheck.Proofs.Run.Operation

/-!
# Interleaved Operations

Operations on the two languages do not interfere when the places of a site lie apart and its
commands are disciplined: however they are interleaved, what comes of the operations on one
language, and what they leave, is the same as if the other language did not exist
(`interleaved_as_alone`). It is not enough that the places lie outside each other's directories: a
path that leads up again from a directory that the other language makes can be followed only once
that is there (`interleaved_unlike_alone`).
-/

namespace SnippetCheck

open Action Files Workspace Phase

namespace Site

/-! ## Keeping pace -/

/-- A workspace in which operations on one language alone were carried out, and one in which those
on the other language were carried out in between. -/
structure KeepsPace (site : Site) (language : Language) (cwd : Location) (scratch : Set Location)
    (start : Tree) (alone interleaved : Workspace) : Prop where
  within : alone.Within cwd
    ((site.paths language).territory language cwd scratch (site.documents cwd)) start
  beside : alone.Beside cwd (site.territory language.other cwd scratch start) interleaved

variable {site : Site} {cwd : Location} {scratch products : Set Location} {start : Tree}
  {language : Language} {alone interleaved : Workspace}

/-- At first, no document stands among what a language leaves. -/
private theorem Apart.fileAt?_eq_none (h : site.Apart cwd scratch products start)
    {location : Location} (hmem : location ∈ (site.paths language).outputs language cwd)
    (hdocument : location ∈ site.documents cwd) : start.fileAt? location = none := by
  rcases hmem with hwritten | hinside
  · exact absurd hdocument (h.written language location hwritten)
  · exact h.inside language location hinside hdocument

namespace KeepsPace

variable (hpace : site.KeepsPace language cwd scratch start alone interleaved)
  (h : site.Apart cwd scratch products start)
include hpace h

/-- No document comes to stand among what a language leaves. -/
private theorem fileAt?_alone_eq_none {other : Language} {location : Location}
    (hmem : location ∈ (site.paths other).outputs other cwd)
    (hdocument : location ∈ site.documents cwd) : alone.files.fileAt? location = none :=
  hpace.within.allows.fileAt?_eq_none hdocument (h.fileAt?_eq_none hmem hdocument)

variable (hcommands : site.Disciplined cwd scratch products start)
include hcommands

/-- An operation on the language comes to the same in both workspaces, and keeps pace. -/
theorem perform {operation : Operation} (hlanguage : operation.language = language) :
    (site.perform operation interleaved).1 = (site.perform operation alone).1 ∧
      site.KeepsPace language cwd scratch start (site.perform operation alone).2
        (site.perform operation interleaved).2 := by
  subst hlanguage
  have hwithin := within_perform h hcommands operation hpace.within.toProperAt
    fun location hmem hdocument => hpace.fileAt?_alone_eq_none h hmem hdocument
  obtain ⟨hanswer, hbeside⟩ := beside_perform h hcommands operation hpace.beside
    fun location hmem hdocument => by
      rcases hmem with houtput | hscratch
      · exact hpace.fileAt?_alone_eq_none h houtput hdocument
      · exact absurd hdocument (h.scratched location hscratch).1
  refine ⟨hanswer, ⟨hwithin.toProperAt, hpace.within.allows.trans ?_⟩, hbeside⟩
  exact hwithin.allows.mono (fun _ hmem => hmem.1) subset_rfl subset_rfl

/-- An operation on the other language in between keeps pace. -/
theorem perform_other {operation : Operation} (hother : operation.language = language.other) :
    site.KeepsPace language cwd scratch start alone (site.perform operation interleaved).2 := by
  have hbeside := hpace.beside
  rw [← hother] at hbeside
  have hwithin := within_perform h hcommands operation hbeside.second fun location hmem hdocument =>
    hbeside.allows.fileAt?_eq_none hdocument (hpace.fileAt?_alone_eq_none h hmem hdocument)
  -- what is missing now has been missing at first
  have hmissing : ∀ location ∈ (site.paths operation.language).ways cwd,
      location ∉ (site.territory operation.language cwd scratch start).own →
      interleaved.files.get? location = none → start.get? location = none := by
    intro location hway hown hnone
    rw [← Option.not_isSome_iff_eq_none]
    intro hsome
    obtain ⟨node, hnode⟩ := Option.isSome_iff_exists.1 hsome
    have halone : alone.files.get? location = some node := by
      refine hpace.within.allows.get?_eq_some ?_ hnode
      rintro (houtput | hscratch)
      · refine h.not_mem_ways operation.language ?_ hway
        rwa [hother, Language.other_other]
      · exact hown (.inr hscratch)
    rw [hbeside.allows.get?_eq_some hown halone] at hnone
    cases hnone
  have hallows := @Territory.Allows.restrict _ _ _ {location | start.get? location = none}
    hwithin.allows fun location hway hown hnone => hmissing location hway.1 hown hnone
  refine ⟨hpace.within, hbeside.first, hwithin.toProperAt, ?_⟩
  rw [← hother]
  refine hbeside.allows.trans (hallows.mono ?_ subset_rfl subset_rfl)
  exact fun location hmem => ⟨hmem.1.1, hmem.2, hmem.1.2⟩

/-- However operations are interleaved, what comes of those on one language is the same, and they
keep pace. -/
theorem performAll (operations : List Operation) :
    (site.performAll operations interleaved).1.filter
        (fun entry => entry.1.language = language) =
      (site.performAll (operations.filter fun operation => operation.language = language)
        alone).1 ∧
      site.KeepsPace language cwd scratch start
        (site.performAll (operations.filter fun operation => operation.language = language) alone).2
        (site.performAll operations interleaved).2 := by
  induction operations generalizing alone interleaved with
  | nil => exact ⟨rfl, hpace⟩
  | cons operation operations ih =>
    by_cases hlanguage : operation.language = language
    · obtain ⟨hanswer, hnext⟩ := hpace.perform h hcommands hlanguage
      obtain ⟨hanswers, hfinal⟩ := ih hnext
      rw [List.filter_cons_of_pos (by simpa using hlanguage)]
      simp only [Site.performAll]
      rw [List.filter_cons_of_pos (by simpa using hlanguage), hanswer, hanswers]
      exact ⟨rfl, hfinal⟩
    · have hother : operation.language = language.other := by
        revert hlanguage
        cases operation.language <;> cases language <;> simp [Language.other]
      obtain ⟨hanswers, hfinal⟩ := ih (hpace.perform_other h hcommands hother)
      rw [List.filter_cons_of_neg (by simpa using hlanguage)]
      simp only [Site.performAll]
      rw [List.filter_cons_of_neg (by simpa using hlanguage)]
      exact ⟨hanswers, hfinal⟩

end KeepsPace

end Site

/-! ## No interference -/

/-- When the places of a site lie apart and its commands are disciplined, operations on the two
languages do not interfere: in whatever order they are interleaved, what comes of the operations on
one language is what comes of them when they are carried out alone, and in the end the same stands
in all places that this language leaves something in. -/
theorem interleaved_as_alone {site : Site} {cwd : Location} {scratch products : Set Location}
    {start : Workspace} (hstart : start.ProperAt cwd)
    (h : site.Apart cwd scratch products start.files)
    (hcommands : site.Disciplined cwd scratch products start.files) (language : Language)
    (operations : List Operation) :
    let own := operations.filter fun operation => operation.language = language
    let interleaved := site.performAll operations start
    let alone := site.performAll own start
    interleaved.1.filter (fun entry => entry.1.language = language) = alone.1 ∧
      ∀ location ∈ (site.paths language).outputs language cwd,
        interleaved.2.files.get? location = alone.2.files.get? location := by
  have hpace : site.KeepsPace language cwd scratch start.files start start :=
    ⟨⟨hstart, .refl _ _⟩, hstart, hstart, .refl _ _⟩
  obtain ⟨hanswers, hfinal⟩ := hpace.performAll h hcommands operations
  refine ⟨hanswers, fun location hmem => ?_⟩
  obtain ⟨hown, hways⟩ := h.outputs_spared language hmem
  exact hfinal.beside.allows.get?_eq hown hways

namespace Site

/-! ## A sample site -/

/-- What an answer tells: how many snippets and warnings a validation reports. -/
def told : Answer → Option (Nat × Nat)
  | .validation (.ok validation) => some (validation.summary.total, validation.warnings.length)
  | _ => none

/-- A normal validation. -/
def validating (language : Language) : Operation :=
  .validate { language, version := sampleVersion }

/-- A validation that captures a baseline. -/
def capturing (language : Language) : Operation :=
  .validate { language, version := sampleVersion, mode := .capture }

/-- A site with one directory of documents, and with base sources `J` and `K`. -/
def sample (machine : Machine) (docs : String) (paths : PathsSection)
    (classpath : ClasspathSection) : Site where
  machine
  manifest := {
    project := { docs := ⟨[docs], ⟨0, 0⟩⟩, extensions := ["m", "json"] }
    sdk := {}
    paths
    classpath
    java := some { baseSource := some "J", imports := some [] }
    kotlin := some { baseSource := some "K", imports := some [] } }
  root := ""
  environment _ := none

/-- Whatever the classpath of a site comes from, it is always the same. -/
def Gives (site : Site) (classpath : String) : Prop :=
  ∀ version workspace found final,
    (site.classpath.resolve site.machine version).Yields workspace found final → found = classpath

/-- A sample site with one entry on its classpath gives this entry. -/
private theorem gives_sample {machine : Machine} {docs : String} {paths : PathsSection}
    {entry : String} (hjoined : Compiler.joinEntries [entry.toList] = .ok entry) :
    (sample machine docs paths { entries := [entry] }).Gives entry := by
  intro version workspace found final hyields
  have hlifted : (liftExcept (Compiler.joinEntries [entry.toList]) :
    Action Compiler.CompileError String).Yields workspace found final := hyields
  exact Except.ok.inj ((yields_liftExcept.1 hlifted).1.symm.trans hjoined)

/-- A machine whose commands all succeed if they name a file at last. -/
def quiet : Machine :=
  .reading fun _ => ⟨.code 0, [], []⟩

/-- Paths of one name each. -/
def plainPaths : PathsSection :=
  { generated := "g", classes := "c", cache := "k", baselines := "b" }

/-- A site whose places lie apart. -/
def plain : Site :=
  sample quiet "d" plainPaths { entries := ["l"] }

/-- A document with one snippet. -/
def snippet : String :=
  "```kotlin\n1\n```"

/-- A workspace with base sources, a document, and more. -/
def sampleWorkspace (document : String) (more : List (Location × Node)) : Workspace where
  files := ⟨more ++ [(["J"], .file "".toUTF8), (["K"], .file "".toUTF8), (["d"], .directory),
    (["d", "a.m"], .file document.toUTF8)]⟩

/-- What the answers tell, of those to operations on a language. -/
def tellings (site : Site) (operations : List Operation) (language : Language)
    (start : Workspace) : List (Option (Nat × Nat)) :=
  ((site.performAll operations start).1.filter fun entry => entry.1.language = language).map
    fun entry => told entry.2

variable {language : Language} {location : Location}

/-- Where the languages leave anything at the plain site. -/
private theorem isPrefix_of_mem_outputs
    (h : location ∈ (plain.paths language).outputs language []) :
    ∃ name ∈ ["g", "k", "b", "c"], [name] <+: location := by
  rcases h with (⟨hdir, -⟩ | heq | heq) | hinside
  · refine ⟨"g", by simp, ?_⟩
    have hgenerated : target [] (plain.paths language).generatedDir = ["g"] := by
      cases language <;> decide +kernel
    rw [← hgenerated, ← hdir]
    exact List.dropLast_prefix location
  · refine ⟨"k", by simp, ?_⟩
    rw [heq]
    cases language <;> decide +kernel
  · refine ⟨"b", by simp, ?_⟩
    rw [heq]
    cases language <;> decide +kernel
  · refine ⟨"c", by simp, List.IsPrefix.trans ?_ hinside⟩
    cases language <;> decide +kernel

/-- Directories of one name each do not stand in each other. -/
private theorem name_eq_of_isPrefix {name other : String} (h : [name] <+: location)
    (hother : [other] <+: location) : other = name := by
  obtain ⟨below, rfl⟩ := h
  exact (List.cons_prefix_cons.1 hother).1

/-- The languages leave nothing in directories with other names. -/
private theorem not_mem_outputs_of_isPrefix {name : String} (h : [name] <+: location)
    (hname : name ∉ ["g", "k", "b", "c"]) :
    location ∉ (plain.paths language).outputs language [] := by
  intro hmem
  obtain ⟨other, hother, hprefix⟩ := isPrefix_of_mem_outputs hmem
  rw [name_eq_of_isPrefix hprefix h] at hname
  exact hname hother

/-- Documents of the plain site stand in its directory of documents. -/
private theorem isPrefix_of_mem_documents (h : location ∈ plain.documents []) :
    ["d"] <+: location := by
  obtain ⟨⟨docs, hdocs, hprefix⟩, -⟩ := h
  obtain rfl := List.mem_singleton.1 hdocs
  have hroot : target [] (Path.join "" "d") = ["d"] := by decide +kernel
  rwa [← hroot]

/-- A path with plain parts is spared at the plain site if a language leaves nothing on its way. -/
private theorem spares_plain {start : Tree} {path : String}
    (hstages : ∀ stage ∈ stages [] path, stage ∉ (plain.paths language).outputs language [])
    (hparts : ∀ part ∈ parts path, part ≠ ".." ∧ part.utf8ByteSize ≤ 255) :
    (plain.territory language [] ∅ start).Spares [] path := by
  refine .of_parts (fun stage hstage hown => ?_) hparts
  rcases hown with houtput | hscratch
  · exact hstages stage hstage houtput
  · exact hscratch

/-- The places of the plain site lie apart. -/
private theorem apart_plain (start : Tree) : plain.Apart [] ∅ ∅ start where
  present := rfl
  paths language path hpath := by
    have hplain : ∀ path ∈ (plain.paths language).all,
        (∀ stage ∈ stages [] path,
          stage ∉ (plain.paths language.other).outputs language.other []) ∧
        ∀ part ∈ parts path, part ≠ ".." ∧ part.utf8ByteSize ≤ 255 := by
      cases language <;> decide +kernel
    exact spares_plain (hplain path hpath).1 (hplain path hpath).2
  base language := by
    refine (spares_plain ?_ ?_).excluding ∅
    · cases language <;> decide +kernel
    · cases language <;> decide +kernel
  docs language docs hdocs := by
    obtain rfl := List.mem_singleton.1 hdocs
    refine spares_plain ?_ ?_
    · cases language <;> decide +kernel
    · decide +kernel
  home language home _ hhome := by cases hhome
  written language location hmem hdocument :=
    not_mem_outputs_of_isPrefix (isPrefix_of_mem_documents hdocument) (by decide) (.inl hmem)
  inside language location hinside hdocument :=
    absurd (.inr hinside)
      (not_mem_outputs_of_isPrefix (isPrefix_of_mem_documents hdocument) (by decide))
  scratched location hmem := absurd hmem (Set.notMem_empty location)

/-- The languages leave nothing at or below `l`. -/
private theorem clears_plain (start : Tree) :
    (plain.territory language [] ∅ start).Clears [] "l" where
  toSpares := spares_plain (by cases language <;> decide +kernel) (by decide +kernel)
  own_below location hinside hown := by
    have htarget : target [] "l" = ["l"] := by decide +kernel
    rw [htarget] at hinside
    rcases hown with houtput | hscratch
    · exact not_mem_outputs_of_isPrefix hinside (by decide) houtput
    · exact hscratch
  ways_below location hinside hways := by
    have hnone : ∀ stage ∈ stages [] (plain.paths language).generatedDir ++
        stages [] (plain.paths language).classesDir ++
        (stages [] (plain.paths language).cacheFile).dropLast ++
        (stages [] (plain.paths language).baselineFile).dropLast, ¬ target [] "l" <+: stage := by
      cases language <;> decide +kernel
    exact hnone location hways.1 hinside

/-- The commands of the plain site are disciplined. -/
private theorem disciplined_plain (start : Tree) : plain.Disciplined [] ∅ ∅ start where
  proper := Machine.keepsProper_reading _
  compiler _ _ := Compiler.Session.disciplined_reading _ _ _ _
  exporter _ _ _ h := by cases h
  known _ := rfl
  entries language version workspace classpath final _ hyields entry hentry := by
    obtain rfl : classpath = "l" :=
      gives_sample (by decide +kernel) version workspace classpath final hyields
    have hentries : Compiler.Session.classpathEntries
        ("l".push Compiler.separator ++ (plain.paths language).classesDir) =
          ["l", (plain.paths language).classesDir] := by
      cases language <;> decide +kernel
    rw [hentries] at hentry
    rcases List.mem_pair.1 hentry with rfl | rfl
    · exact .inr { (clears_plain start).toSpares.excluding ∅ with
        own_below := fun location hinside hown =>
          (clears_plain start).own_below location hinside hown.1
        ways_below := (clears_plain start).ways_below }
    · exact .inl rfl

end Site

open Site

set_option maxRecDepth 100000 in
/-- At the plain site, a validation of the Kotlin snippets tells the same when Java ones are
validated before and cleaned up afterwards. -/
theorem interleaved_as_alone_plain :
    let interleaved := plain.performAll [validating .java, validating .kotlin, .clean .java]
      (sampleWorkspace snippet [])
    let alone := plain.performAll [validating .kotlin] (sampleWorkspace snippet [])
    alone.1.map (fun entry => told entry.2) = [some (1, 0)] ∧
      interleaved.1.filter (fun entry => entry.1.language = .kotlin) = alone.1 ∧
      ∀ location ∈ (plain.paths .kotlin).outputs .kotlin [],
        interleaved.2.files.get? location = alone.2.files.get? location := by
  refine ⟨by decide +kernel, ?_⟩
  have hproper : (sampleWorkspace snippet []).ProperAt [] := ⟨rfl, by decide +kernel⟩
  exact interleaved_as_alone hproper (apart_plain _) (disciplined_plain _) .kotlin
    [validating .java, validating .kotlin, .clean .java]

/-! ## Interference -/

namespace Site

/-- The sources of a language: where documents are looked for, and the source of its base type. -/
def sources (site : Site) (language : Language) : List String :=
  (site.manifest.project.docs.value ++ [(site.manifest.settings language).baseSource]).map
    (Path.join site.root)

/-- Of two places, neither is at or below the other one. -/
def Separate (location other : Location) : Prop :=
  ¬ location <+: other ∧ ¬ other <+: location

instance (location other : Location) : Decidable (Separate location other) :=
  inferInstanceAs (Decidable (_ ∧ _))

/-- The places of a site stay out of its directories of classes, and the sources stay out of the
directory of generated sources. -/
def StaysOut (site : Site) (cwd : Location) : Prop :=
  ∀ language other,
    (∀ path ∈ [(site.paths other).generatedDir, (site.paths other).cacheFile,
        (site.paths other).baselineFile] ++ site.sources other,
      Separate (target cwd (site.paths language).classesDir) (target cwd path)) ∧
    ∀ path ∈ site.sources other,
      Separate (target cwd (site.paths language).generatedDir) (target cwd path)

instance (site : Site) (cwd : Location) : Decidable (site.StaysOut cwd) :=
  inferInstanceAs (Decidable (∀ _ _ : Language, _ ∧ _))

/-- What one may take to be enough for operations not to interfere: places stay out of directories
that are not theirs, compilers are disciplined, and the classpath is always the same, without any
directory of classes. -/
structure Outside (site : Site) (cwd : Location) : Prop where
  places : site.StaysOut cwd
  proper : site.machine.KeepsProper
  compiler : ∀ workspace choice,
    (site.task workspace choice).session.Disciplined site.machine cwd (site.documents cwd)
  classpath : ∃ classpath, site.Gives classpath ∧
    ∀ entry ∈ Compiler.Session.classpathEntries classpath, ∀ language,
      ¬ target cwd (site.paths language).classesDir <+: target cwd entry

/-- With such a site and a proper tree, operations on the other language in between change what
comes of those on a language. -/
structure Interferes (site : Site) (language : Language) (operations : List Operation)
    (start : Workspace) : Prop where
  outside : site.Outside []
  proper : start.ProperAt []
  answers :
    (site.performAll operations start).1.filter (fun entry => entry.1.language = language) ≠
      (site.performAll (operations.filter fun operation => operation.language = language) start).1

/-- The plain site with its baselines beyond the directory of caches. -/
def climbing : Site :=
  sample quiet "d" { plainPaths with baselines := "k/../b" } { entries := ["l"] }

/-- The plain site with its baselines among the documents. -/
def documenting : Site :=
  sample quiet "b" plainPaths { entries := ["l"] }

/-- The plain site with generated sources below the cache of Java. -/
def nesting : Site :=
  sample quiet "d" { plainPaths with generated := "k/snippet-java-cache.json/g" }
    { entries := ["l"] }

/-- A machine whose commands fail if there is a cache of Java in an entry of their classpath. -/
def objecting : Machine where
  run command cwd files :=
    let entries := Compiler.Session.classpathEntries (command.args.getD 1 "")
    let seen := entries.any fun entry =>
      (files.fileAt? (target cwd entry ++ ["snippet-java-cache.json"])).isSome
    (some ⟨.code (if seen then 1 else 0), [], []⟩, files)

/-- The plain site with its caches on the classpath, and compilers that object to them. -/
def caching : Site :=
  sample objecting "d" plainPaths { entries := ["k"] }

/-- A machine on which the command `e` prints a classpath, and spoils the cache of Java. -/
def spoiling : Machine where
  run command cwd files :=
    (some ⟨.code 0, [0x6c], []⟩,
      if command.program = "e" then
        (files.write cwd "k/snippet-java-cache.json" "?".toUTF8).toOption.getD files
      else files)

/-- The plain site with a classpath from a command that spoils the cache of Java. -/
def exporting : Site :=
  sample spoiling "d" plainPaths { command := some ⟨["e"], ⟨0, 0⟩⟩ }

variable {machine : Machine} {docs : String} {paths : PathsSection} {classpath : ClasspathSection}

/-- At sample sites, compilers are called without further arguments. -/
private theorem toolchain_sample (workspace : Workspace) (choice : ValidationChoice) :
    ((sample machine docs paths classpath).task workspace choice).session.toolchain =
      ⟨(Compiler.Convention.of choice.language).binary, []⟩ := by
  rcases choice with ⟨language⟩
  cases language <;> rfl

/-- Sample sites whose places stay out and whose compilers only read their source. -/
private theorem outside_quiet (h : (sample quiet docs paths { entries := ["l"] }).StaysOut [])
    (hentries : ∀ language,
      ¬ target [] ((sample quiet docs paths { entries := ["l"] }).paths language).classesDir <+:
        target [] "l") :
    (sample quiet docs paths { entries := ["l"] }).Outside [] where
  places := h
  proper := Machine.keepsProper_reading _
  compiler _ _ := Compiler.Session.disciplined_reading _ _ _ _
  classpath := by
    have hsingle : Compiler.Session.classpathEntries "l" = ["l"] := by decide +kernel
    refine ⟨"l", gives_sample (by decide +kernel), fun entry hentry => ?_⟩
    rw [hsingle] at hentry
    obtain rfl := List.mem_singleton.1 hentry
    exact hentries

/-- Compilers that object to the cache in their classpath are disciplined. -/
private theorem disciplined_objecting {session : Compiler.Session} {barred : Set Location}
    (hargs : session.toolchain.args = []) : session.Disciplined objecting [] barred where
  ends classpath source files other _ _ hsame := by
    have hclasspath : (session.command classpath source).args.getD 1 "" = classpath := by
      simp [Compiler.Session.command, Compiler.Toolchain.command, Compiler.Convention.args, hargs]
    have hseen : ∀ entry ∈ Compiler.Session.classpathEntries classpath,
        other.fileAt? (target [] entry ++ ["snippet-java-cache.json"]) =
          files.fileAt? (target [] entry ++ ["snippet-java-cache.json"]) := fun entry hentry =>
      Tree.fileAt?_congr ((hsame.entries entry (List.mem_cons_of_mem _ hentry)).2 _
        (List.prefix_append _ _))
    have hany : ((Compiler.Session.classpathEntries classpath).any fun entry =>
        (other.fileAt? (target [] entry ++ ["snippet-java-cache.json"])).isSome) =
        (Compiler.Session.classpathEntries classpath).any fun entry =>
          (files.fileAt? (target [] entry ++ ["snippet-java-cache.json"])).isSome := by
      rw [Bool.eq_iff_iff, List.any_eq_true, List.any_eq_true]
      refine exists_congr fun entry => and_congr_right fun hentry => ?_
      rw [hseen entry hentry]
    simp only [objecting, hclasspath, hany]
  makes _ _ _ _ _ _ hsame location hinside :=
    (hsame.entries _ List.mem_cons_self).2 location hinside
  leaves _ _ _ _ _ _ := rfl
  bars _ _ _ _ _ _ hnone := hnone

/-- The site with its caches on the classpath is as one may ask. -/
private theorem outside_caching : caching.Outside [] where
  places := by decide +kernel
  proper _ _ _ hproper := hproper
  compiler workspace choice := by
    refine disciplined_objecting ?_
    rw [caching, toolchain_sample]
  classpath := ⟨"k", gives_sample (by decide +kernel), by decide +kernel⟩

/-- A command that spoils the cache leaves proper trees. -/
private theorem keepsProper_spoiling : spoiling.KeepsProper := by
  intro command cwd files hproper
  simp only [spoiling]
  split
  · cases hwrite : files.write cwd "k/snippet-java-cache.json" "?".toUTF8 with
    | error refusal => exact hproper
    | ok after => exact hproper.write hwrite
  · exact hproper

/-- Other commands than `e` do nothing. -/
private theorem run_spoiling {command : Command} (h : command.program ≠ "e") (cwd : Location)
    (files : Tree) : spoiling.run command cwd files = (some ⟨.code 0, [0x6c], []⟩, files) := by
  simp only [spoiling, if_neg h]

/-- What the command `e` prints is the classpath. -/
private theorem gives_exporting : exporting.Gives "l" := by
  intro version workspace found final hyields
  have hline : Compiler.Exporter.commandLine ⟨["e"], "", none⟩ version = ["e"] := by
    have hkept : Compiler.replaceWord Compiler.versionMark version.text.toList ['e'] = ['e'] := by
      rw [Compiler.replaceWord, if_neg (by decide), Compiler.replaceWord]
    exact congrArg (fun chars => [String.ofList chars]) hkept
  have hjoined : Compiler.joinEntries
      (Text.splitAt Compiler.separator (Text.trim (Text.readBytes [0x6c])) ++ []) = .ok "l" := by
    decide +kernel
  have hbind : ((Compiler.Exporter.run ⟨["e"], "", none⟩ spoiling version) >>= fun text =>
      liftExcept (Compiler.joinEntries
        (Text.splitAt Compiler.separator (Text.trim text) ++ []))).Yields workspace found final :=
    hyields
  obtain ⟨text, between, hrun, hlifted⟩ := yields_bind.1 hbind
  rw [Compiler.Exporter.run] at hrun
  dsimp only at hrun
  rw [hline] at hrun
  obtain ⟨finished, launched, hlaunch, hexported⟩ := yields_bind.1 hrun
  obtain rfl : some ⟨.code 0, [0x6c], []⟩ = finished := congrArg Prod.fst (yields_launch.1 hlaunch)
  have htext : (pure (Text.readBytes [0x6c]) : Action Compiler.CompileError (List Char)).Yields
      launched text between := hexported
  rw [(yields_pure.1 htext).1] at hlifted
  exact Except.ok.inj ((yields_liftExcept.1 hlifted).1.symm.trans hjoined)

/-- The site with a classpath from a command is as one may ask. -/
private theorem outside_exporting : exporting.Outside [] where
  places := by decide +kernel
  proper := keepsProper_spoiling
  compiler workspace choice := by
    have hrun (classpath source : String) (files : Tree) :
        exporting.machine.run ((exporting.task workspace choice).session.command classpath source)
          [] files = (some ⟨.code 0, [0x6c], []⟩, files) := by
      refine run_spoiling ?_ _ _
      show ((exporting.task workspace choice).session.toolchain).program ≠ "e"
      rw [exporting, toolchain_sample]
      cases choice.language <;> decide
    constructor
    case ends =>
      intro classpath source files other _ _ _
      rw [hrun, hrun]
    case makes =>
      intro classpath source files other _ _ hsame location hinside
      rw [hrun, hrun]
      exact (hsame.entries _ List.mem_cons_self).2 location hinside
    case leaves =>
      intro classpath source files _ location _
      rw [hrun]
    case bars =>
      intro classpath source files _ location _ hnone
      rwa [hrun]
  classpath := ⟨"l", gives_exporting, by decide +kernel⟩

/-- Answers that tell something else are not the same. -/
private theorem Interferes.of_told {site : Site} {language : Language} {operations : List Operation}
    {start : Workspace} (houtside : site.Outside []) (hstart : start.ProperAt [])
    (htold : site.tellings operations language start ≠
      (site.performAll (operations.filter fun operation => operation.language = language)
        start).1.map fun entry => told entry.2) :
    site.Interferes language operations start :=
  ⟨houtside, hstart, fun heq =>
    htold (congrArg (List.map fun entry : Operation × Answer => told entry.2) heq)⟩

end Site

set_option maxRecDepth 100000 in
/-- Operations interfere at sites whose places merely stay out of directories that are not theirs:
if a path leads up again from a directory that the other language makes, or through what it leaves,
if what it leaves is a document or on the classpath, or if the command for the classpath spoils it.
-/
theorem interleaved_unlike_alone :
    climbing.Interferes .kotlin [validating .java, validating .kotlin]
      (sampleWorkspace "" [(["b"], .directory),
        (["b", "baseline-kotlin.json"], .file "?".toUTF8)]) ∧
    nesting.Interferes .kotlin [.clean .java, validating .kotlin]
      (sampleWorkspace snippet [(["k"], .directory),
        (["k", "snippet-java-cache.json"], .file "".toUTF8)]) ∧
    documenting.Interferes .kotlin [capturing .java, validating .kotlin]
      (sampleWorkspace "" [(["b"], .directory),
        (["b", "baseline-java.json"], .file snippet.toUTF8)]) ∧
    caching.Interferes .kotlin [validating .java, validating .kotlin] (sampleWorkspace snippet []) ∧
    exporting.Interferes .java [validating .java, validating .kotlin, validating .java]
      (sampleWorkspace snippet []) := by
  have hclimbing : climbing.Outside [] := outside_quiet (by decide +kernel) (by decide +kernel)
  have hnesting : nesting.Outside [] := outside_quiet (by decide +kernel) (by decide +kernel)
  have hdocumenting : documenting.Outside [] :=
    outside_quiet (by decide +kernel) (by decide +kernel)
  refine ⟨.of_told hclimbing ⟨rfl, by decide +kernel⟩ ?_,
    .of_told hnesting ⟨rfl, by decide +kernel⟩ ?_,
    .of_told hdocumenting ⟨rfl, by decide +kernel⟩ ?_,
    .of_told outside_caching ⟨rfl, by decide +kernel⟩ ?_,
    .of_told outside_exporting ⟨rfl, by decide +kernel⟩ ?_⟩
  · decide +kernel
  · decide +kernel
  · decide +kernel
  · decide +kernel
  · decide +kernel

end SnippetCheck
