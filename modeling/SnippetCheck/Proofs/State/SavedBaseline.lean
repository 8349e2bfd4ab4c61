import SnippetCheck.Proofs.Files.Change
import SnippetCheck.Proofs.State.Baseline

/-!
# Saved Baselines

A baseline is built by inserting entries, in any order and any number of times. Its entries stand
in the order of document, rank and hash (`compare_eq_lt_iff_precedes`), so that the set of entries
determines it (`inserted_eq_of_mem_iff`), and with it the text that it is stored as. A saved
baseline whose ranks are numbers of 64 bits is loaded as it was.

## Main result

* `saved_canonically`: what a saved baseline lists, what is loaded from it, and what its bytes
  depend on.
-/

namespace SnippetCheck

open Files

/-- One entry stands before another: by the path of the document, in one document by the rank, and
at one place by the hash. -/
def BaselineEntry.Precedes (a b : BaselineEntry) : Prop :=
  a.file < b.file ∨ a.file = b.file ∧
    (a.snippet < b.snippet ∨ a.snippet = b.snippet ∧ a.hash.text < b.hash.text)

/-- The order of entries, in words. -/
theorem BaselineEntry.compare_eq_lt_iff_precedes {a b : BaselineEntry} :
    compare a b = .lt ↔ a.Precedes b := by
  have htext {s t : String} : compare s t = .lt ↔ s < t := compareOfLessAndEq_eq_lt
  show (compare a.file b.file).then ((compare a.snippet b.snippet).then
    (compare a.hash.text b.hash.text)) = .lt ↔ _
  simp only [Ordering.then_eq_lt, htext, Nat.compare_eq_lt, Std.compare_eq_iff_eq, Precedes]

namespace Baseline

/-- The baseline that entries were inserted into, one after the other. -/
def inserted (entries : List BaselineEntry) : Baseline :=
  entries.foldl insert empty

variable {entries others : List BaselineEntry} {path : String} {start final : Workspace}
  {value : Unit}

/-- Inserting entries one after the other gives the baseline of all of them. -/
theorem inserted_eq_ofList (entries : List BaselineEntry) : inserted entries = ofList entries :=
  List.foldl_hom Baseline.mk fun _ _ => rfl

/-- A baseline has the entries that were inserted into it. -/
theorem mem_inserted {entry : BaselineEntry} :
    entry ∈ (inserted entries).entries ↔ entry ∈ entries := by
  rw [inserted_eq_ofList]
  exact Ordered.mem_ofList_id

/-- A baseline that entries were inserted into is canonical. -/
theorem canonical_inserted (entries : List BaselineEntry) : (inserted entries).Canonical := by
  rw [inserted_eq_ofList]
  exact canonical_ofList entries

/-- Canonical baselines list their entries in order. -/
theorem Canonical.pairwise_precedes {baseline : Baseline} (h : baseline.Canonical) :
    baseline.entries.Pairwise BaselineEntry.Precedes :=
  h.imp BaselineEntry.compare_eq_lt_iff_precedes.1

/-- Baselines that the same entries were inserted into are equal. -/
theorem inserted_eq_of_mem_iff (h : ∀ entry, entry ∈ others ↔ entry ∈ entries) :
    inserted others = inserted entries := by
  have hentries : (inserted others).entries = (inserted entries).entries := by
    apply Ordered.eq_of_mem_iff (canonical_inserted others) (canonical_inserted entries)
    intro entry
    rw [mem_inserted, mem_inserted, h]
  exact congrArg Baseline.mk hentries

/-- A baseline that entries were inserted into accepts the snippets that these name. -/
theorem accepts_inserted {snippet : Snippet} :
    (inserted entries).accepts snippet = true ↔ BaselineEntry.of snippet ∈ entries := by
  rw [inserted_eq_ofList, accepts_ofList]

/-- The file of a saved baseline lists each of its entries once, in the order of document, rank and
hash. Its bytes depend on nothing but the set of entries, and none of them can keep it from being
saved. What is loaded is the baseline that was saved, and it accepts just the snippets that the
entries name. -/
theorem saved_canonically (entries : List BaselineEntry)
    (hranks : ∀ entry ∈ entries, entry.snippet < Text.limit64)
    (hsave : ((inserted entries).save path).Yields start value final) :
    (∃ (text : String) (listed : List BaselineEntry), final.readText path = .ok text ∧
      Json.ofText? text = some (.array (listed.map BaselineEntry.toJson)) ∧
      listed.Pairwise BaselineEntry.Precedes ∧
      ∀ entry, entry ∈ listed ↔ entry ∈ entries) ∧
    (∀ others place origin last done,
      ((inserted others).save place).Yields origin done last →
      (∀ entry, entry ∈ others ↔ entry ∈ entries) →
      ∃ bytes, last.files.fileAt? (target origin.cwd place) = some bytes ∧
        final.files.fileAt? (target start.cwd path) = some bytes) ∧
    (∀ others, ∃ done last, ((inserted others).save path).Yields start done last) ∧
    load final path = .ok (inserted entries) ∧
    ∀ snippet, (inserted entries).accepts snippet = true ↔ BaselineEntry.of snippet ∈ entries := by
  have hcanonical := canonical_inserted entries
  obtain ⟨-, htext, hbytes⟩ := Action.reads_of_writeText hsave
  refine ⟨⟨_, (inserted entries).entries, htext, ofText?_toText _,
    hcanonical.pairwise_precedes, fun entry => mem_inserted⟩, ?_, fun others =>
    Action.exists_writeText_of_yields hsave _, ?_, fun snippet => accepts_inserted⟩
  · intro others place origin last done hother hmem
    -- both files hold the text of the one baseline
    obtain ⟨-, -, hotherBytes⟩ := Action.reads_of_writeText hother
    rw [inserted_eq_of_mem_iff hmem] at hotherBytes
    exact ⟨_, hotherBytes, hbytes⟩
  · refine load_of_readText hcanonical ?_ htext
    intro entry hmem
    exact hranks entry (mem_inserted.1 hmem)

/-- Entries out of order, of which one is given twice. -/
def repeatedEntries : List BaselineEntry :=
  [⟨⟨"b"⟩, "docs/z.md", 0⟩, ⟨⟨"\t\"\\"⟩, "docs/é.md", 18446744073709551615⟩,
    ⟨⟨"b"⟩, "docs/z.md", 0⟩, ⟨⟨"a"⟩, "docs/z.md", 0⟩]

/-- The same entries, once and in another order. -/
def reorderedEntries : List BaselineEntry :=
  repeatedEntries.tail.reverse

/-- The same bytes are stored for both lists of entries, and the baseline of the one is loaded from
the file of the other. -/
theorem saved_canonically_repeatedEntries :
    ∃ (final last : Workspace) (bytes : ByteArray),
      ((inserted repeatedEntries).save "a.json").Yields { files := .empty } () final ∧
      ((inserted reorderedEntries).save "b.json").Yields { files := .empty } () last ∧
      final.files.fileAt? ["a.json"] = some bytes ∧
      last.files.fileAt? ["b.json"] = some bytes ∧
      load final "a.json" = .ok (inserted reorderedEntries) := by
  let start : Workspace := { files := .empty }
  obtain ⟨_, final, hsave⟩ := Action.exists_yields
    (show (((inserted repeatedEntries).save "a.json").exec start).1.isOk = true by decide +kernel)
  obtain ⟨_, last, hother⟩ := Action.exists_yields
    (show (((inserted reorderedEntries).save "b.json").exec start).1.isOk = true by decide +kernel)
  have hmem : ∀ entry, entry ∈ reorderedEntries ↔ entry ∈ repeatedEntries := by
    intro entry
    simp [reorderedEntries, repeatedEntries]
    tauto
  obtain ⟨-, hsame, -, hload, -⟩ := saved_canonically repeatedEntries (by decide) hsave
  obtain ⟨bytes, hlast, hfinal⟩ := hsame _ _ _ _ _ hother hmem
  refine ⟨final, last, bytes, hsave, hother, hfinal, hlast, ?_⟩
  rw [hload, inserted_eq_of_mem_iff hmem]

end Baseline

end SnippetCheck
