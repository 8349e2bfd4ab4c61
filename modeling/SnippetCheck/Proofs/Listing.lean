import SnippetCheck.Listing
import SnippetCheck.Proofs.Naming
import SnippetCheck.Proofs.Run.Account
import SnippetCheck.Validation

/-!
# Listings And Runs

A listing and a run of the same task find the same snippets. A listing names the classes of all of
them, and a run only those that it considers, so that a name can be shared in the listing and not in
the run. Every unit of a run is listed under its place and its hash, and under the name of its class
just when its base name is not shared with left-out snippets only (`units_listed`). When it is, the
listing shows a name that the run does not use (`listed_unlike_compiled`).
-/

namespace SnippetCheck

open Action Phase ClassName

namespace ContentHash

/-- A text in which every character takes one byte gives its first characters. -/
private theorem takeBytes_eq_take {s : List Char} (hbytes : ∀ c ∈ s, c.utf8Size = 1) (n : Nat) :
    takeBytes n s = some (s.take n) := by
  induction s generalizing n with
  | nil => simp [takeBytes]
  | cons c s ih =>
    obtain ⟨hfirst, hrest⟩ := List.forall_mem_cons.1 hbytes
    rw [takeBytes]
    cases n with
    | zero => simp
    | succ n => simp [hfirst, ih hrest n]

/-- ASCII letters and digits take one byte. -/
private theorem utf8Size_of_isAsciiAlnum {c : Char} (h : Text.isAsciiAlnum c = true) :
    c.utf8Size = 1 := by
  rw [Char.utf8Size_eq_one_iff]
  have hletter : c.isAlpha = (decide (c.val ≥ 65 ∧ c.val ≤ 90) ||
      decide (c.val ≥ 97) && decide (c.val ≤ 122)) := rfl
  have hdigit : c.isDigit = (decide (c.val ≥ 48) && decide (c.val ≤ 57)) := rfl
  simp only [Text.isAsciiAlnum, hletter, hdigit, Bool.or_eq_true, Bool.and_eq_true,
    decide_eq_true_eq] at h
  rcases h with (h | h) | h <;> exact UInt32.le_trans h.2 (by decide)

/-- The hash of a content is shown with its first twelve digits. -/
theorem short?_of (content : String) :
    (of content).short? = some (String.ofList ((Sha256.hexDigest content).toList.take 12)) := by
  rw [short?, of, takeBytes_eq_take fun c hc =>
    utf8Size_of_isAsciiAlnum (Sha256.isAsciiAlnum_of_mem_hexDigest hc)]
  rfl

end ContentHash

namespace Manifest

/-- The settings of a language are for that language. -/
@[simp]
theorem language_settings (manifest : Manifest) (language : Language) :
    (manifest.settings language).language = language := by
  unfold settings
  cases manifest.section? language <;> rfl

/-- A listing is about the snippets that a run is about. -/
theorem extraction_task (manifest : Manifest) (root : String) (toolchain : Compiler.Toolchain)
    (choice : ValidationChoice) :
    (manifest.task root toolchain choice).extraction =
      Listing.extraction manifest root choice.language := by
  simp [Task.extraction, Task.language, task, Listing.extraction]

end Manifest

namespace ClassName

variable {tag : String} {snippets others : List Snippet} {snippet : Snippet}

/-- The name of a snippet's class depends on the others only in whether they share its base name. -/
theorem nameAmong_eq_iff (hids : (snippets.map Snippet.id).Nodup)
    (hids' : (others.map Snippet.id).Nodup) (hmem : snippet ∈ snippets)
    (hmem' : snippet ∈ others) :
    nameAmong tag snippets snippet = nameAmong tag others snippet ↔
      (Shares tag snippets snippet ↔ Shares tag others snippet) := by
  have hlonger : base tag snippet ≠ s!"{base tag snippet}_{shortDigest snippet.id.file}" := by
    intro heq
    have hlength := congrArg (fun name => name.toList.length) heq
    simp [toString, String.toList_append] at hlength
  by_cases h : Shares tag snippets snippet <;> by_cases h' : Shares tag others snippet
  · rw [nameAmong_of_shares hids hmem h, nameAmong_of_shares hids' hmem' h']
    simp [h, h']
  · rw [nameAmong_of_shares hids hmem h, nameAmong_of_not_shares hids' hmem' h']
    simp [h, h', hlonger.symm]
  · rw [nameAmong_of_not_shares hids hmem h, nameAmong_of_shares hids' hmem' h']
    simp [h, h', hlonger]
  · rw [nameAmong_of_not_shares hids hmem h, nameAmong_of_not_shares hids' hmem' h']
    simp [h, h']

/-- Some of several snippets share a base name only if it is shared among all of them. -/
theorem Shares.mono (h : Shares tag snippets snippet) (hsubset : snippets ⊆ others) :
    Shares tag others snippet :=
  h.imp fun _ hother => ⟨hsubset hother.1, hother.2⟩

end ClassName

/-! ## What is listed -/

namespace Listing

variable {language : Language} {found : List Snippet} {snippet : Snippet}

/-- A listing shows every snippet under its name among all of them. -/
theorem snippets_ofSnippets (language : Language) (found : List Snippet) :
    (ofSnippets language found).snippets =
      found.map fun snippet => .of snippet (nameAmong language.tag found snippet) := by
  rw [ofSnippets, allocate_eq_map, List.zipWith_map_right, List.zipWith_self]

/-- A snippet is listed once. -/
theorem eq_of_mem_snippets (hids : (found.map Snippet.id).Nodup) (hmem : snippet ∈ found)
    {listed : ListedSnippet} (hlisted : listed ∈ (ofSnippets language found).snippets)
    (hfile : listed.file = snippet.id.file) (hindex : listed.index = snippet.id.index) :
    listed = .of snippet (nameAmong language.tag found snippet) := by
  rw [snippets_ofSnippets] at hlisted
  obtain ⟨other, hother, rfl⟩ := List.mem_map.1 hlisted
  have hid : other.id = snippet.id := congrArg₂ SnippetId.mk hfile hindex
  rw [List.inj_on_of_nodup_map hids hother hmem hid]

end Listing

/-- Every unit of a run is listed once under its place, with the first twelve digits of its hash,
and under the name of its class just when its base name is not shared with snippets only that the
run has left out. -/
theorem units_listed {machine : Machine} {manifest : Manifest} {root : String}
    {toolchain : Compiler.Toolchain} {choice : ValidationChoice} {start final : Workspace}
    {run : Run}
    (hrun : (({} : Pipeline).run machine (manifest.task root toolchain choice)).Yields
      start run final) :
    ∃ found, (Listing.extraction manifest root choice.language).run start = .ok found ∧
      ∃ listing, Listing.run manifest root choice.language start = .ok listing ∧
        ∀ sourceUnit ∈ run.units, ∃ listed ∈ listing.snippets,
          (∀ other ∈ listing.snippets, other.file = sourceUnit.snippet.id.file →
            other.index = sourceUnit.snippet.id.index → other = listed) ∧
          listed.file = sourceUnit.snippet.id.file ∧
          listed.index = sourceUnit.snippet.id.index ∧
          sourceUnit.snippet.hash.short? = some listed.hash ∧
          (listed.className = sourceUnit.className ↔
            (Shares choice.language.tag found sourceUnit.snippet →
              Shares choice.language.tag run.snippets sourceUnit.snippet)) := by
  obtain ⟨passage⟩ := Pipeline.nonempty_passage hrun
  have hextraction := passage.extraction_eq
  rw [Manifest.extraction_task] at hextraction
  refine ⟨passage.snippets, hextraction, .ofSnippets choice.language passage.snippets,
    by rw [Listing.run, hextraction]; rfl, fun sourceUnit hunit => ?_⟩
  have hconsidered : sourceUnit.snippet ∈ run.snippets := by
    rw [← passage.map_snippet_units]
    exact List.mem_map_of_mem hunit
  have hfound := passage.snippets_sublist.subset hconsidered
  have hclass : sourceUnit.className =
      nameAmong choice.language.tag run.snippets sourceUnit.snippet := by
    rw [passage.units_eq, consideredUnits, ← passage.snippets_eq, ofSnippets_eq_map] at hunit
    obtain ⟨snippet, -, rfl⟩ := List.mem_map.1 hunit
    exact congrArg (fun language : Language => nameAmong language.tag run.snippets snippet)
      (manifest.language_settings choice.language)
  refine ⟨.of sourceUnit.snippet
      (nameAmong choice.language.tag passage.snippets sourceUnit.snippet), ?_,
    fun other hother => Listing.eq_of_mem_snippets passage.nodup_ids hfound hother, rfl, rfl, ?_,
    ?_⟩
  · rw [Listing.snippets_ofSnippets]
    exact List.mem_map.2 ⟨_, hfound, rfl⟩
  · have hshort := ContentHash.short?_of sourceUnit.snippet.content
    simp [ListedSnippet.of, Snippet.hash, hshort]
  · -- a base name that considered snippets share is shared among all that were found
    have hids := passage.nodup_ids.sublist (passage.snippets_sublist.map Snippet.id)
    have hmono : Shares choice.language.tag run.snippets sourceUnit.snippet →
        Shares choice.language.tag passage.snippets sourceUnit.snippet :=
      fun h => h.mono passage.snippets_sublist.subset
    rw [hclass]
    exact (nameAmong_eq_iff passage.nodup_ids hids hfound hconsidered).trans
      ⟨Iff.mp, fun h => ⟨h, hmono⟩⟩

/-! ## A name that is shared with a left-out snippet -/

namespace Slugged

/-- A manifest with two directories of documents. -/
def manifest : Manifest where
  project := { docs := ⟨["d-d", "d_d"], ⟨0, 0⟩⟩ }
  sdk := {}
  classpath := { entries := ["c"] }
  paths := { generated := "g", classes := "c", cache := "k", baselines := "b" }
  java := some { baseSource := some "B", imports := some [] }

/-- A validation of Java snippets. -/
def choice : ValidationChoice where
  language := .java
  version := sampleVersion

/-- The task of this validation. -/
def task : Task :=
  manifest.task "" ⟨"javac", []⟩ choice

/-- A workspace with two documents of one slug, and with a baseline that accepts the failure of the
first. -/
def accepting : Workspace where
  files := ⟨[(["d-d"], .directory), (["d-d", "a.md"], .file "```java\n1\n```".toUTF8),
    (["d_d"], .directory), (["d_d", "a.md"], .file "```java\n2\n```".toUTF8),
    (["B"], .file "".toUTF8), (["b"], .directory), (["b", "baseline-java.json"],
      .file (Baseline.ofList [.of ⟨⟨"d-d/a.md", 0⟩, "1"⟩]).toText.toUTF8)]⟩

/-- The course of the validation there, with a compiler that accepts every source. -/
def acceptingCourse : Course × Workspace :=
  (({} : Pipeline).course (.reading fun _ => ⟨.code 0, [], []⟩) task).run accepting

/-- The documents of a run's units, with the names of their classes. -/
def compiled (run : Run) : List (String × String) :=
  run.units.map fun sourceUnit => (sourceUnit.snippet.id.file, sourceUnit.className)

/-- The documents of a listing's snippets, with the names of their classes. -/
def listed (listing : Listing) : List (String × String) :=
  listing.snippets.map fun listed => (listed.file, listed.className)

set_option maxRecDepth 100000 in
/-- What the validation compiles. -/
theorem acceptingCourse_compiled :
    acceptingCourse.1.result.toOption.map compiled =
      some [("d_d/a.md", "Snippet_java_d_d_a_md_000")] := by
  decide +kernel

end Slugged

open Slugged

/-- The validation there succeeds, and its unit is listed. -/
theorem units_listed_accepting :
    ∃ run, acceptingCourse.1.result = .ok run ∧ run.units ≠ [] ∧
      ∃ listing, Listing.run manifest "" .java accepting = .ok listing ∧
        ∀ sourceUnit ∈ run.units, ∃ listed ∈ listing.snippets,
          listed.file = sourceUnit.snippet.id.file ∧
          sourceUnit.snippet.hash.short? = some listed.hash := by
  obtain ⟨run, hrun, hcompiled⟩ := Pipeline.exists_run_yields acceptingCourse_compiled
  obtain ⟨hresult, -⟩ := Pipeline.run_yields_iff.1 hrun
  obtain ⟨_, -, listing, hlisting, hunits⟩ :=
    @units_listed _ manifest "" ⟨"javac", []⟩ choice _ _ _ hrun
  refine ⟨run, hresult, fun hnone => ?_, listing, hlisting, fun sourceUnit hmem => ?_⟩
  · simp [compiled, hnone] at hcompiled
  · obtain ⟨listed, hlisted, -, hfile, -, hhash, -⟩ := hunits sourceUnit hmem
    exact ⟨listed, hlisted, hfile, hhash⟩

set_option maxRecDepth 100000 in
/-- The listing there tells the two documents apart. The validation leaves one of them out and
compiles the other under the name that the two would share. -/
theorem listed_unlike_compiled :
    choice.mode = .normal ∧
      (Listing.run manifest "" .java accepting).map listed =
        .ok [("d-d/a.md", "Snippet_java_d_d_a_md_000_66d296b4"),
          ("d_d/a.md", "Snippet_java_d_d_a_md_000_f484c446")] ∧
      acceptingCourse.1.result.toOption.map compiled =
        some [("d_d/a.md", "Snippet_java_d_d_a_md_000")] := by
  have hfound : (Listing.extraction manifest "" .java).run accepting =
      .ok [⟨⟨"d-d/a.md", 0⟩, "1"⟩, ⟨⟨"d_d/a.md", 0⟩, "2"⟩] := by decide +kernel
  refine ⟨rfl, ?_, acceptingCourse_compiled⟩
  rw [Listing.run, hfound]
  decide +kernel

end SnippetCheck
