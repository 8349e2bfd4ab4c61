import SnippetCheck.Proofs.Files.Frame
import SnippetCheck.Proofs.Json.Record
import SnippetCheck.Proofs.Json.RoundTrip
import SnippetCheck.Proofs.Ordered
import SnippetCheck.State.Baseline

/-!
# Baseline Lookup And Storage

A baseline of several entries accepts just the snippets that these name (`Baseline.accepts_ofList`).
It is canonical, and a canonical baseline whose ranks are numbers of 64 bits is read back from its
stored text (`Baseline.load_of_readText`).
-/

namespace SnippetCheck

open Std

/-- Entries that agree in document, rank and hash are equal. -/
instance : LawfulEqOrd BaselineEntry where
  compare_self {entry} := by
    show compareLex _ _ entry entry = .eq
    simp [compareLex, compareOn]
  eq_of_compare {entry other} h := by
    obtain ⟨hfile, hrest⟩ := compareLex_eq_eq.1 h
    obtain ⟨hsnippet, hhash⟩ := compareLex_eq_eq.1 hrest
    obtain ⟨⟨text⟩, file, rank⟩ := entry
    obtain ⟨⟨text'⟩, file', rank'⟩ := other
    obtain rfl : file = file' := LawfulEqOrd.eq_of_compare hfile
    obtain rfl : rank = rank' := LawfulEqOrd.eq_of_compare hsnippet
    obtain rfl : text = text' := LawfulEqOrd.eq_of_compare hhash
    rfl

/-- The order of entries is that of documents, ranks and hashes. -/
instance : TransOrd BaselineEntry :=
  inferInstanceAs (TransCmp (compareLex (compareOn BaselineEntry.file)
    (compareLex (compareOn BaselineEntry.snippet) (compareOn fun entry => entry.hash.text))))

namespace Baseline

/-- A baseline of several entries accepts the snippets that these name. -/
theorem accepts_ofList {entries : List BaselineEntry} {snippet : Snippet} :
    (ofList entries).accepts snippet = true ↔ BaselineEntry.of snippet ∈ entries := by
  rw [accepts, List.contains_iff_mem]
  exact Ordered.mem_ofList_id

/-- The empty baseline accepts nothing. -/
@[simp]
theorem accepts_empty (snippet : Snippet) : empty.accepts snippet = false := rfl

/-- The entries of a baseline stand in their order. -/
def Canonical (baseline : Baseline) : Prop :=
  Ordered.Sorted (fun entry => entry) baseline.entries

/-- A baseline of several entries is canonical. -/
theorem canonical_ofList (entries : List BaselineEntry) : (ofList entries).Canonical :=
  Ordered.sorted_ofList _ entries

/-- The ranks of a baseline are numbers of 64 bits. -/
def HasRanks (baseline : Baseline) : Prop :=
  ∀ entry ∈ baseline.entries, entry.snippet < Text.limit64

/-- An entry is read back from its stored form. -/
private theorem ofJson?_entry {entry : BaselineEntry} (h : entry.snippet < Text.limit64) :
    BaselineEntry.ofJson? entry.toJson = some entry := by
  simp only [BaselineEntry.ofJson?, BaselineEntry.toJson]
  rw [Json.Record.ofValue?_ofMembers _ (by simp)]
  simp [Json.Record.required, List.lookup_cons, Json.Value.natural?, Json.Value.ofNat, h]

/-- The stored document is plain. -/
private theorem isPlain_toJson (baseline : Baseline) : baseline.toJson.isPlain = true := by
  simp [toJson, BaselineEntry.toJson, Json.Value.ofMembers, Json.Value.ofText, Json.Value.ofNat,
    Json.Value.isPlain]

/-- A canonical baseline is read back from its stored document. -/
theorem ofJson?_toJson {baseline : Baseline} (h : baseline.Canonical) (hranks : baseline.HasRanks) :
    ofJson? baseline.toJson = some baseline := by
  have hentries := Json.Value.list?_array fun entry hmem => ofJson?_entry (hranks entry hmem)
  rw [ofJson?, toJson, hentries, Option.map_some, ofList, Ordered.ofList_eq_self_of_sorted h]

/-- The baseline that the bytes of a file hold. -/
def ofBytes? (bytes : ByteArray) : Option Baseline :=
  (String.fromUTF8? bytes).bind fun text => (Json.ofText? text).bind ofJson?

/-- The stored document is read back from the text of a baseline. -/
theorem ofText?_toText (baseline : Baseline) :
    Json.ofText? baseline.toText = some baseline.toJson :=
  Json.ofText?_prettyText (isPlain_toJson baseline) Json.isBlank_lineFeed

/-- A canonical baseline is loaded from a file that holds its stored text. -/
theorem load_of_readText {baseline : Baseline} (h : baseline.Canonical)
    (hranks : baseline.HasRanks) {workspace : Workspace} {path : String}
    (htext : workspace.readText path = .ok baseline.toText) :
    load workspace path = .ok baseline := by
  rw [load, Workspace.loadDocument, htext]
  dsimp only
  rw [ofText?_toText, Option.bind_some, ofJson?_toJson h hranks]

end Baseline

end SnippetCheck
