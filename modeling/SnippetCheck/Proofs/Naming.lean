import SnippetCheck.Proofs.SourceUnit
import Mathlib.Data.List.Nodup
import Mathlib.Logic.Function.Basic

/-!
# Class Names Tell Snippets Apart

Names with a digest appended and names without stand side by side, so that one kind could be taken
for the other. What stands behind the last underscore of a name settles which kind it is: the rank
of the snippet, or the digest of its path.

* `base_inj`: a base name tells the slug of the document and the rank of the snippet.
* `allocate_distinct`: two snippets get one name only if the digest of their paths clashes
  (`DigestClash`), or if the rank of one reads as the digest of the other (`RankClash`). Without
  a clash of digests and below the rank 10,000,000, class names and file names are distinct.
-/

namespace SnippetCheck

namespace Text

/-- What stands before and after the last underscore of a text is determined by the text. -/
theorem append_underscore_inj {x y w v : List Char} (hw : '_' ∉ w) (hv : '_' ∉ v)
    (h : x ++ '_' :: w = y ++ '_' :: v) : x = y ∧ w = v := by
  -- if one front were longer, its underscore would stand in the other back
  rcases List.append_eq_append_iff.1 h with ⟨gap, rfl, hgap⟩ | ⟨gap, rfl, hgap⟩
  · cases gap with
    | nil => simpa using hgap
    | cons c gap =>
      obtain ⟨-, rfl⟩ := List.cons.inj hgap
      simp at hw
  · cases gap with
    | nil => simpa [eq_comm] using hgap
    | cons c gap =>
      obtain ⟨-, rfl⟩ := List.cons.inj hgap
      simp at hv

/-- Different numbers have different padded numerals. -/
theorem decimalPadded_injective (width : Nat) : Function.Injective (decimalPadded width) := by
  have hvalue (n : Nat) : Nat.ofDigitChars 10 (decimalPadded width n) 0 = n := by
    simp [decimalPadded, decimal, Nat.ofDigitChars_append]
  exact Function.LeftInverse.injective hvalue

/-- A numeral of more digits than the width is not padded. -/
theorem decimalPadded_eq_decimal {width n : Nat} (h : width < (decimalPadded width n).length) :
    decimalPadded width n = decimal n := by
  have hwidth : width - (decimal n).length = 0 := by
    simp only [decimalPadded, List.length_append, List.length_replicate] at h
    omega
  simp [decimalPadded, hwidth]

private theorem underscore_notMem_decimalPadded (width n : Nat) : '_' ∉ decimalPadded width n := by
  intro h
  exact absurd (isDigit_of_mem_decimalPadded h) (by decide)

end Text

namespace Sha256

open Text

/-- A number in `n` places takes `n` bytes. -/
@[simp]
theorem length_bigEndian (n value : Nat) : (bigEndian n value).length = n := by
  induction n generalizing value with
  | zero => rfl
  | succ n ih => simp [bigEndian, ih]

/-- A digest takes 32 bytes. -/
theorem length_digest (message : List UInt8) : (digest message).length = 32 := by
  simp only [digest, List.flatMap_cons, List.flatMap_nil, List.length_append, length_bigEndian,
    List.length_nil]

/-- A digest is written with 64 digits. -/
theorem length_hexDigest (s : String) : (hexDigest s).toList.length = 64 := by
  have hbyte (byte : UInt8) : (hexByte byte).length = 2 := rfl
  rw [hexDigest, String.toList_ofList, List.length_flatMap, funext hbyte, List.map_const',
    length_digest, List.sum_replicate_nat]

end Sha256

namespace ClassName

open Text

variable {tag : String} {snippets : List Snippet} {a b : Snippet}

/-! ## Reading a name -/

/-- A short digest has eight digits. -/
theorem length_shortDigest (s : String) : (shortDigest s).toList.length = 8 := by
  rw [shortDigest, String.toList_ofList, List.length_take, Sha256.length_hexDigest]
  decide

private theorem underscore_notMem_shortDigest (s : String) : '_' ∉ (shortDigest s).toList := by
  intro h
  rw [shortDigest, String.toList_ofList] at h
  have halnum : isAsciiAlnum '_' = true :=
    Sha256.isAsciiAlnum_of_mem_hexDigest (List.mem_of_mem_take h)
  exact absurd halnum (by decide)

/-- The base name up to the underscore in front of the rank. -/
private def stem (tag : String) (snippet : Snippet) : String :=
  s!"Snippet_{tag}_{slugOf snippet.id.file}"

private theorem toList_underscored (front back : String) :
    s!"{front}_{back}".toList = front.toList ++ '_' :: back.toList := by
  have hgap : "_".toList = ['_'] := rfl
  simp only [toString, String.toList_append, hgap, List.append_assoc, List.cons_append,
    List.nil_append]

private theorem toList_base (tag : String) (snippet : Snippet) :
    (base tag snippet).toList =
      (stem tag snippet).toList ++ '_' :: decimalPadded 3 snippet.id.index := by
  have h := toList_underscored (stem tag snippet)
    (String.ofList (decimalPadded 3 snippet.id.index))
  rwa [String.toList_ofList] at h

/-- A base name tells the slug of the document and the rank of the snippet. -/
theorem base_inj :
    base tag a = base tag b ↔
      slugOf a.id.file = slugOf b.id.file ∧ a.id.index = b.id.index := by
  constructor
  · intro h
    have hchars := congrArg String.toList h
    rw [toList_base, toList_base] at hchars
    obtain ⟨hstem, hindex⟩ := append_underscore_inj (underscore_notMem_decimalPadded _ _)
      (underscore_notMem_decimalPadded _ _) hchars
    exact ⟨String.append_right_inj _ |>.1 (String.toList_injective hstem),
      decimalPadded_injective 3 hindex⟩
  · rintro ⟨hslug, hindex⟩
    simp only [base, hslug, hindex]

/-! ## When two names are one -/

/-- The snippet shares its base name with another snippet of the list. -/
def Shares (tag : String) (snippets : List Snippet) (snippet : Snippet) : Prop :=
  ∃ other ∈ snippets, other.id ≠ snippet.id ∧ base tag other = base tag snippet

/-- Two documents with one slug have one short digest too, and the snippets have one rank. -/
structure DigestClash (a b : Snippet) : Prop where
  file_ne : a.id.file ≠ b.id.file
  slug : slugOf a.id.file = slugOf b.id.file
  index : a.id.index = b.id.index
  digest : shortDigest a.id.file = shortDigest b.id.file

/-- A snippet has the digest of its path appended, and the rank of another snippet has eight
digits that read as this digest. -/
structure RankClash (tag : String) (snippets : List Snippet) (a b : Snippet) : Prop where
  shares : Shares tag snippets a
  length : (decimal b.id.index).length = 8
  digest : String.ofList (decimal b.id.index) = shortDigest a.id.file

/-- With distinct identities, a base name counts more than once just when it is shared. -/
theorem one_lt_count_iff (hids : (snippets.map Snippet.id).Nodup) (ha : a ∈ snippets) :
    1 < (bases tag snippets).count (base tag a) ↔ Shares tag snippets a := by
  obtain ⟨front, back, rfl⟩ := List.append_of_mem ha
  have hothers : a.id ∉ (front ++ back).map Snippet.id := by
    rw [List.map_append, List.map_cons, List.nodup_middle, List.nodup_cons] at hids
    rw [List.map_append]
    exact hids.1
  have hcount : (bases tag (front ++ a :: back)).count (base tag a) =
      ((front ++ back).map (base tag)).count (base tag a) + 1 := by
    simp [bases, List.count_append, Nat.add_assoc]
  rw [hcount, Nat.lt_add_left_iff_pos, List.count_pos_iff, List.mem_map]
  constructor
  · rintro ⟨other, hmem, hbase⟩
    have hid : other.id ≠ a.id := fun heq => hothers (heq ▸ List.mem_map_of_mem hmem)
    refine ⟨other, ?_, hid, hbase⟩
    rcases List.mem_append.1 hmem with h | h <;> simp [h]
  · rintro ⟨other, hmem, hid, hbase⟩
    refine ⟨other, ?_, hbase⟩
    rcases List.mem_append.1 hmem with h | h
    · exact List.mem_append_left _ h
    · rcases List.mem_cons.1 h with rfl | h
      · exact absurd rfl hid
      · exact List.mem_append_right _ h

/-- The class name of a snippet among others. -/
def nameAmong (tag : String) (snippets : List Snippet) (snippet : Snippet) : String :=
  if 1 < (bases tag snippets).count (base tag snippet) then
    s!"{base tag snippet}_{shortDigest snippet.id.file}"
  else base tag snippet

/-- Every snippet gets its name among all of them. -/
theorem allocate_eq_map (tag : String) (snippets : List Snippet) :
    allocate tag snippets = snippets.map (nameAmong tag snippets) :=
  rfl

/-- A shared base name has the digest of the path appended. -/
theorem nameAmong_of_shares (hids : (snippets.map Snippet.id).Nodup) (ha : a ∈ snippets)
    (h : Shares tag snippets a) :
    nameAmong tag snippets a = s!"{base tag a}_{shortDigest a.id.file}" := by
  rw [nameAmong, if_pos ((one_lt_count_iff hids ha).2 h)]

/-- A base name that is not shared stands alone. -/
theorem nameAmong_of_not_shares (hids : (snippets.map Snippet.id).Nodup) (ha : a ∈ snippets)
    (h : ¬ Shares tag snippets a) : nameAmong tag snippets a = base tag a := by
  rw [nameAmong, if_neg (mt (one_lt_count_iff hids ha).1 h)]

/-- A name with a digest is that of a snippet without one only if the rank reads as the digest. -/
private theorem rankClash_of_nameAmong_eq (hids : (snippets.map Snippet.id).Nodup)
    (ha : a ∈ snippets) (hb : b ∈ snippets) (hshares : Shares tag snippets a)
    (hnot : ¬ Shares tag snippets b) (h : nameAmong tag snippets a = nameAmong tag snippets b) :
    RankClash tag snippets a b := by
  have hchars := congrArg String.toList h
  rw [nameAmong_of_shares hids ha hshares, nameAmong_of_not_shares hids hb hnot,
    toList_underscored, toList_base tag b] at hchars
  obtain ⟨-, hdigest⟩ := append_underscore_inj (underscore_notMem_shortDigest _)
    (underscore_notMem_decimalPadded _ _) hchars
  have hlength : (decimalPadded 3 b.id.index).length = 8 := by
    rw [← hdigest, length_shortDigest]
  have hdecimal : decimalPadded 3 b.id.index = decimal b.id.index :=
    decimalPadded_eq_decimal (by omega)
  rw [hdecimal] at hlength hdigest
  exact {
    shares := hshares
    length := hlength
    digest := by rw [← hdigest, String.ofList_toList] }

/-- Two snippets have one name only if a digest or a rank clashes. -/
theorem clash_of_nameAmong_eq (hids : (snippets.map Snippet.id).Nodup) (ha : a ∈ snippets)
    (hb : b ∈ snippets) (hne : a.id ≠ b.id)
    (h : nameAmong tag snippets a = nameAmong tag snippets b) :
    DigestClash a b ∨ RankClash tag snippets a b ∨ RankClash tag snippets b a := by
  by_cases hsharesA : Shares tag snippets a
  · by_cases hsharesB : Shares tag snippets b
    · -- both names end in a digest
      have hchars := congrArg String.toList h
      rw [nameAmong_of_shares hids ha hsharesA, nameAmong_of_shares hids hb hsharesB,
        toList_underscored, toList_underscored] at hchars
      obtain ⟨hbase, hdigest⟩ := append_underscore_inj (underscore_notMem_shortDigest _)
        (underscore_notMem_shortDigest _) hchars
      obtain ⟨hslug, hindex⟩ := base_inj.1 (String.toList_injective hbase)
      refine .inl ⟨fun hfile => hne ?_, hslug, hindex, String.toList_injective hdigest⟩
      exact congrArg₂ SnippetId.mk hfile hindex
    · exact .inr (.inl (rankClash_of_nameAmong_eq hids ha hb hsharesA hsharesB h))
  · by_cases hsharesB : Shares tag snippets b
    · exact .inr (.inr (rankClash_of_nameAmong_eq hids hb ha hsharesB hsharesA h.symm))
    · -- both names are base names, so that they are shared after all
      have hbase : base tag a = base tag b := by
        rwa [nameAmong_of_not_shares hids ha hsharesA, nameAmong_of_not_shares hids hb hsharesB]
          at h
      exact absurd ⟨b, hb, hne.symm, hbase.symm⟩ hsharesA

/-- A rank that reads as a digest has eight digits. -/
theorem RankClash.le_index (h : RankClash tag snippets a b) : 10000000 ≤ b.id.index := by
  by_contra hlt
  have hshort : (decimal b.id.index).length ≤ 7 :=
    (Nat.length_toDigits_le_iff (by decide) (by decide)).2 (by omega)
  have hlong := h.length
  omega

/-! ## Names of classes and of files -/

/-- Where digests of paths do not clash and ranks are small, names tell snippets apart. -/
private theorem nodup_allocate (hids : (snippets.map Snippet.id).Nodup)
    (hdigest : ∀ a ∈ snippets, ∀ b ∈ snippets,
      shortDigest a.id.file = shortDigest b.id.file → a.id.file = b.id.file)
    (hindex : ∀ a ∈ snippets, a.id.index < 10000000) : (allocate tag snippets).Nodup := by
  rw [allocate_eq_map]
  refine List.Nodup.map_on (fun a ha b hb heq => ?_) (List.Nodup.of_map _ hids)
  by_contra hne
  have hid : a.id ≠ b.id := fun hid => hne (List.inj_on_of_nodup_map hids ha hb hid)
  rcases clash_of_nameAmong_eq hids ha hb hid heq with hclash | hclash | hclash
  · exact hclash.file_ne (hdigest a ha b hb hclash.digest)
  · exact absurd (hindex b hb) (Nat.not_lt.2 hclash.le_index)
  · exact absurd (hindex a ha) (Nat.not_lt.2 hclash.le_index)

/-- The unit of a snippet stands under its name among all of them. -/
theorem ofSnippets_eq_map (settings : Settings) (snippets : List Snippet) :
    SourceUnit.ofSnippets settings snippets = snippets.map fun snippet =>
      .new settings snippet (nameAmong settings.language.tag snippets snippet) := by
  rw [SourceUnit.ofSnippets, allocate_eq_map, List.zipWith_map_right, List.zipWith_self]

/-- Class names are unique up to clashes of digests. Snippets with distinct identities get one name
each, and two of them get the same one only if their paths differ but have one slug and one short
digest, or if one shares its base name and the other has a rank that reads as the first one's
digest. Without either, the names of classes and of source files are distinct. -/
theorem allocate_distinct (settings : Settings) {snippets : List Snippet}
    (hids : (snippets.map Snippet.id).Nodup) :
    (allocate settings.language.tag snippets).length = snippets.length ∧
      (∀ i j, ∀ (hi : i < snippets.length) (hj : j < snippets.length), i ≠ j →
        (allocate settings.language.tag snippets)[i]? =
          (allocate settings.language.tag snippets)[j]? →
        DigestClash snippets[i] snippets[j] ∨
          RankClash settings.language.tag snippets snippets[i] snippets[j] ∨
          RankClash settings.language.tag snippets snippets[j] snippets[i]) ∧
      ((∀ a ∈ snippets, ∀ b ∈ snippets,
          shortDigest a.id.file = shortDigest b.id.file → a.id.file = b.id.file) →
        (∀ a ∈ snippets, a.id.index < 10000000) →
        (allocate settings.language.tag snippets).Nodup ∧
          ((SourceUnit.ofSnippets settings snippets).map SourceUnit.fileName).Nodup) := by
  refine ⟨length_allocate _ _, fun i j hi hj hne heq => ?_, fun hdigest hindex => ?_⟩
  · have hid : snippets[i].id ≠ snippets[j].id := by
      intro hid
      have hget : (snippets.map Snippet.id)[i]? = (snippets.map Snippet.id)[j]? := by
        simp [hi, hj, hid]
      exact hne ((List.getElem?_inj (by simpa using hi) hids).1 hget)
    rw [allocate_eq_map, List.getElem?_map, List.getElem?_map, List.getElem?_eq_getElem hi,
      List.getElem?_eq_getElem hj] at heq
    exact clash_of_nameAmong_eq hids (List.getElem_mem hi) (List.getElem_mem hj) hid
      (Option.some.inj heq)
  · have hnames : (allocate settings.language.tag snippets).Nodup :=
      nodup_allocate hids hdigest hindex
    refine ⟨hnames, ?_⟩
    have hfiles : (SourceUnit.ofSnippets settings snippets).map SourceUnit.fileName =
        (allocate settings.language.tag snippets).map
          fun name => name ++ "." ++ settings.language.extension := by
      rw [ofSnippets_eq_map, allocate_eq_map, List.map_map, List.map_map]
      rfl
    rw [hfiles]
    refine hnames.map fun a b heq => ?_
    have happend : a ++ ("." ++ settings.language.extension) =
        b ++ ("." ++ settings.language.extension) := by
      rwa [← String.append_assoc, ← String.append_assoc]
    exact (String.append_left_inj _).1 happend

set_option maxRecDepth 100000 in
/-- Two documents with one slug, and a third one. -/
theorem allocate_distinct_slugged :
    ((allocate "java" [⟨⟨"a-b.md", 0⟩, "1"⟩, ⟨⟨"a_b.md", 0⟩, "2"⟩, ⟨⟨"c.md", 0⟩, "3"⟩]).Nodup ∧
      ((SourceUnit.ofSnippets (Settings.default .java)
        [⟨⟨"a-b.md", 0⟩, "1"⟩, ⟨⟨"a_b.md", 0⟩, "2"⟩, ⟨⟨"c.md", 0⟩, "3"⟩]).map
          SourceUnit.fileName).Nodup) :=
  (allocate_distinct (Settings.default .java) (by decide)).2.2 (by decide +kernel) (by decide)

end ClassName

end SnippetCheck
