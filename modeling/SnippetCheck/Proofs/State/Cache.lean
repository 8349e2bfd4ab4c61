import SnippetCheck.Proofs.Files.Frame
import SnippetCheck.Proofs.Json.Record
import SnippetCheck.Proofs.Json.RoundTrip
import SnippetCheck.Proofs.Ordered
import SnippetCheck.State.Cache

/-!
# Cache Lookup And Storage

A cache of several results answers with the last one for a hash (`Cache.get?_ofList`). It is
canonical (`Cache.canonical_ofList`), and a canonical cache is read back from its stored text
(`Cache.ofBytes?_toText`), for its own SDK version only. Whatever is loaded is what the bytes of the
file hold (`Cache.load_eq_ok`).
-/

namespace SnippetCheck

open Std

/-- Hashes with the same text are equal. -/
instance : LawfulEqOrd ContentHash where
  eq_of_compare {a b} h := by
    cases a
    cases b
    exact congrArg ContentHash.mk (LawfulEqOrd.eq_of_compare (α := String) h)
  compare_self {a} := ReflOrd.compare_self (α := String)

/-- The order of hashes is that of their texts. -/
instance : TransOrd ContentHash where
  eq_swap := OrientedOrd.eq_swap (α := String)
  isLE_trans h h' := TransOrd.isLE_trans (α := String) h h'

namespace Cache

/-! ## Lookup -/

/-- Of several results for a hash, the cache gives the last. -/
theorem get?_ofList (entries : List (ContentHash × List String)) (hash : ContentHash) :
    (ofList entries).get? hash =
      (entries.reverse.find? fun entry => entry.1 = hash).map Prod.snd := by
  rw [get?, ofList, Ordered.find?_ofList]

/-- The empty cache knows nothing. -/
@[simp]
theorem get?_empty (hash : ContentHash) : empty.get? hash = none := rfl

/-- A cache of several results knows the hashes of these results. -/
theorem isSome_get?_ofList (entries : List (ContentHash × List String)) (hash : ContentHash) :
    ((ofList entries).get? hash).isSome = true ↔ hash ∈ entries.map Prod.fst := by
  rw [get?_ofList, Option.isSome_map, List.find?_isSome]
  simp

/-- What a cache gives for a hash is one of the results for it. -/
theorem mem_of_get?_ofList {entries : List (ContentHash × List String)} {hash : ContentHash}
    {errors : List String} (h : (ofList entries).get? hash = some errors) :
    (hash, errors) ∈ entries := by
  rw [get?_ofList, Option.map_eq_some_iff] at h
  obtain ⟨⟨other, found⟩, hfind, rfl⟩ := h
  have hother : other = hash := by simpa using List.find?_some hfind
  rw [← hother]
  exact List.mem_reverse.1 (List.mem_of_find?_eq_some hfind)

/-! ## Storage -/

/-- The results of a cache stand in the order of their hashes. -/
def Canonical (cache : Cache) : Prop :=
  Ordered.Sorted Prod.fst cache.entries

/-- A cache of several results is canonical. -/
theorem canonical_ofList (entries : List (ContentHash × List String)) :
    (ofList entries).Canonical :=
  Ordered.sorted_ofList Prod.fst entries

/-- Canonical caches that know the same are equal. -/
theorem Canonical.eq_of_get?_eq {cache other : Cache} (h : cache.Canonical)
    (hother : other.Canonical) (hget : ∀ hash, cache.get? hash = other.get? hash) :
    cache = other := by
  refine congrArg Cache.mk (Ordered.eq_of_find?_eq h hother fun hash => ?_)
  -- what is found for a hash has this hash, so that its errors tell it
  have hpair (cache : Cache) : Ordered.find? Prod.fst hash cache.entries =
      (cache.get? hash).map fun errors => (hash, errors) := by
    rw [get?]
    cases hfind : Ordered.find? Prod.fst hash cache.entries with
    | none => rfl
    | some entry =>
      have hhash : entry.1 = hash := by simpa using List.find?_some hfind
      rw [← hhash]
      rfl
  rw [hpair, hpair, hget]

/-- The stored document is plain. -/
private theorem isPlain_toJson (cache : Cache) (version : SdkVersion) :
    (cache.toJson version).isPlain = true := by
  simp [toJson, Json.Value.ofMembers, Json.Value.ofTexts, Json.Value.ofText, Json.Value.isPlain]

/-- A canonical cache is read back from its stored document. -/
theorem ofJson?_toJson {cache : Cache} (h : cache.Canonical) (version : SdkVersion) :
    ofJson? (cache.toJson version) = some (version.text, cache) := by
  -- the entries are read back one by one, and stand in the order already
  have hmap := Json.Value.map?_ofMembers Json.Value.list?_ofTexts
    (cache.entries.map fun entry => (entry.1.text, entry.2))
  simp only [List.map_map, Function.comp_def] at hmap
  have hsame : ofList cache.entries = cache :=
    congrArg Cache.mk (Ordered.ofList_eq_self_of_sorted h)
  simp only [toJson, ofJson?]
  rw [Json.Record.ofValue?_ofMembers _ (by simp)]
  simp [Json.Record.required, Json.Record.withDefault, List.lookup_cons, hmap, Function.comp_def,
    hsame]

/-- The SDK version and the cache that the bytes of a file hold. -/
def ofBytes? (bytes : ByteArray) : Option (String × Cache) :=
  (String.fromUTF8? bytes).bind fun text => (Json.ofText? text).bind ofJson?

/-- A canonical cache is read back from its stored text. -/
theorem ofText?_toText {cache : Cache} (h : cache.Canonical) (version : SdkVersion) :
    (Json.ofText? (cache.toText version)).bind ofJson? = some (version.text, cache) := by
  have hdocument : Json.ofText? (cache.toText version) = some (cache.toJson version) :=
    Json.ofText?_compactText (isPlain_toJson cache version) Json.isBlank_lineFeed
  rw [hdocument, Option.bind_some, ofJson?_toJson h]

/-- A canonical cache is read back from the bytes of its stored text. -/
theorem ofBytes?_toText {cache : Cache} (h : cache.Canonical) (version : SdkVersion) :
    ofBytes? (cache.toText version).toUTF8 = some (version.text, cache) := by
  rw [ofBytes?, Files.fromUTF8?_toUTF8, Option.bind_some, ofText?_toText h]

/-- A cache is loaded just when the path leads to a file whose bytes hold it for the SDK
version. -/
theorem load_eq_ok {workspace : Workspace} {path : String} {version : SdkVersion}
    {cache : Cache} :
    load workspace path version = .ok cache ↔
      ∃ text, workspace.readText path = .ok text ∧
        (Json.ofText? text).bind ofJson? = some (version.text, cache) := by
  unfold load Workspace.loadDocument
  cases htext : workspace.readText path with
  | error refusal => cases refusal <;> simp
  | ok text =>
    cases hdocument : (Json.ofText? text).bind ofJson? with
    | none => simp [hdocument]
    | some stored =>
      obtain ⟨found, other⟩ := stored
      by_cases hversion : found = version.text <;> simp [hdocument, hversion]

/-- What is loaded is what the bytes at the target of the path hold. -/
theorem exists_ofBytes?_of_load {workspace : Workspace} {path : String} {version : SdkVersion}
    {cache : Cache} (h : load workspace path version = .ok cache) :
    ∃ bytes, workspace.files.fileAt? (Files.target workspace.cwd path) = some bytes ∧
      ofBytes? bytes = some (version.text, cache) := by
  obtain ⟨text, htext, hcache⟩ := load_eq_ok.1 h
  obtain ⟨-, bytes, hfile, hbytes⟩ := Files.Tree.readText_eq_ok.1 htext
  refine ⟨bytes, hfile, ?_⟩
  rw [ofBytes?, hbytes, Option.bind_some, hcache]

/-- From a file that holds its stored text, a canonical cache is loaded for its own SDK version. For
another one, both versions are named. -/
theorem load_eq_of_readText {cache : Cache} (h : cache.Canonical) {workspace : Workspace}
    {path : String} {version : SdkVersion}
    (htext : workspace.readText path = .ok (cache.toText version)) (wanted : SdkVersion) :
    load workspace path wanted =
      if version.text = wanted.text then .ok cache
      else .error (.otherVersion path version.text wanted.text) := by
  rw [load, Workspace.loadDocument, htext]
  simp only [ofText?_toText h]

/-- A canonical cache is loaded from a file that holds its stored text. -/
theorem load_of_readText {cache : Cache} (h : cache.Canonical) {workspace : Workspace}
    {path : String} {version : SdkVersion}
    (htext : workspace.readText path = .ok (cache.toText version)) :
    load workspace path version = .ok cache := by
  rw [load_eq_of_readText h htext, if_pos rfl]

end Cache

end SnippetCheck
