import Mathlib.Data.List.Induction
import Mathlib.Data.List.Sort
import SnippetCheck.Ordered

/-!
# Lookup And Order In Ordered Lists

For a key with a lawful order, adding an item to an ordered list decides what is found for its
key and for no other (`find?_insert`), so that of several items the last one with a key is found
(`find?_ofList`). Adding keeps a list sorted (`sorted_insert`), and a sorted list is the ordered
list of its own items (`ofList_eq_self_of_sorted`) and determined by what is found in it
(`eq_of_find?_eq`).
-/

namespace SnippetCheck.Ordered

open Std

variable {α κ : Type} [Ord κ]

/-- The keys of a list increase. -/
def Sorted (key : α → κ) (items : List α) : Prop :=
  items.Pairwise fun a b => compare (key a) (key b) = .lt

/-- Several items are added in their order. -/
theorem ofList_append_singleton (key : α → κ) (items : List α) (item : α) :
    ofList key (items ++ [item]) = insert key item (ofList key items) := by
  simp [ofList]

/-- What stands in an ordered list was added to it. -/
theorem mem_of_mem_ofList {key : α → κ} {items : List α} {item : α}
    (h : item ∈ ofList key items) : item ∈ items := by
  induction items using List.reverseRecOn with
  | nil => exact h
  | append_singleton items last ih =>
    rw [ofList_append_singleton] at h
    rcases mem_of_mem_insert h with rfl | hmem
    · simp
    · exact List.mem_append_left _ (ih hmem)

/-! ## Lookup -/

section Lookup

variable [DecidableEq κ] [LawfulEqOrd κ]

/-- An added item is found under its key, and the others as before. -/
theorem find?_insert (key : α → κ) (item : α) (wanted : κ) (items : List α) :
    find? key wanted (insert key item items) =
      if key item = wanted then some item else find? key wanted items := by
  induction items with
  | nil =>
    by_cases h : key item = wanted <;> simp [insert, find?, h]
  | cons first items ih =>
    rw [insert]
    split
    next => by_cases h : key item = wanted <;> simp [find?, h]
    next heq =>
      -- the item takes the place of the one that has had its key
      have hkey : key item = key first := LawfulEqOrd.eq_of_compare heq
      by_cases h : key item = wanted
      · simp [find?, h]
      · simp [find?, h, ← hkey]
    next hgt =>
      have hkey : key first ≠ key item := by
        rintro heq
        rw [heq, ReflOrd.compare_self] at hgt
        cases hgt
      by_cases hfirst : key first = wanted
      · have hitem : key item ≠ wanted := fun h => hkey (hfirst.trans h.symm)
        simp [find?, hfirst, hitem]
      · simpa [find?, hfirst] using ih

/-- Of several items with one key, the last is found. -/
theorem find?_ofList (key : α → κ) (wanted : κ) (items : List α) :
    find? key wanted (ofList key items) = items.reverse.find? fun item => key item = wanted := by
  induction items using List.reverseRecOn with
  | nil => rfl
  | append_singleton items item ih =>
    rw [ofList_append_singleton, find?_insert, ih, List.reverse_concat, List.find?_cons]
    by_cases h : key item = wanted <;> simp [h]

end Lookup

/-! ## Order -/

section Order

variable [TransOrd κ]

/-- An added item stays below what was above it and was not its equal. -/
private theorem compare_eq_lt_of_mem_insert {key : α → κ} {first item other : α} {items : List α}
    (hfirst : ∀ later ∈ items, compare (key first) (key later) = .lt)
    (hitem : compare (key item) (key first) = .gt) (hother : other ∈ insert key item items) :
    compare (key first) (key other) = .lt := by
  rcases mem_of_mem_insert hother with rfl | hmem
  · exact OrientedCmp.gt_iff_lt.1 hitem
  · exact hfirst other hmem

/-- Adding an item keeps a list sorted. -/
theorem sorted_insert (key : α → κ) (item : α) {items : List α} (h : Sorted key items) :
    Sorted key (insert key item items) := by
  induction items with
  | nil => simp [insert, Sorted]
  | cons first items ih =>
    obtain ⟨hfirst, hitems⟩ := List.pairwise_cons.1 h
    rw [insert]
    split
    next hlt =>
      refine List.pairwise_cons.2 ⟨?_, h⟩
      intro later hlater
      rcases List.mem_cons.1 hlater with rfl | hlater
      · exact hlt
      · exact TransCmp.lt_trans hlt (hfirst later hlater)
    next heq =>
      -- the item takes the place of its equal
      refine List.pairwise_cons.2 ⟨?_, hitems⟩
      intro later hlater
      exact TransCmp.lt_of_eq_of_lt heq (hfirst later hlater)
    next hgt =>
      refine List.pairwise_cons.2 ⟨?_, ih hitems⟩
      intro later hlater
      exact compare_eq_lt_of_mem_insert hfirst hgt hlater

/-- The ordered list of several items is sorted. -/
theorem sorted_ofList (key : α → κ) (items : List α) : Sorted key (ofList key items) := by
  induction items using List.reverseRecOn with
  | nil => exact List.Pairwise.nil
  | append_singleton items item ih =>
    rw [ofList_append_singleton]
    exact sorted_insert key item ih

/-- An item above all others goes to the end. -/
theorem insert_eq_append {key : α → κ} {item : α} {items : List α}
    (h : ∀ other ∈ items, compare (key other) (key item) = .lt) :
    insert key item items = items ++ [item] := by
  induction items with
  | nil => rfl
  | cons first items ih =>
    have hgt : compare (key item) (key first) = .gt :=
      OrientedCmp.gt_iff_lt.2 (h first List.mem_cons_self)
    rw [insert, hgt]
    dsimp only
    rw [ih fun other hother => h other (List.mem_cons_of_mem _ hother), List.cons_append]

/-- A sorted list is the ordered list of its items. -/
theorem ofList_eq_self_of_sorted {key : α → κ} {items : List α} (h : Sorted key items) :
    ofList key items = items := by
  induction items using List.reverseRecOn with
  | nil => rfl
  | append_singleton items item ih =>
    obtain ⟨hitems, -, hitem⟩ := List.pairwise_append.1 h
    rw [ofList_append_singleton, ih hitems]
    exact insert_eq_append fun other hother => hitem other hother item List.mem_cons_self

omit [TransOrd κ] in
/-- In a sorted list, what is found for the key of an item is the item itself, just when it is
there. -/
theorem find?_key_eq_some [DecidableEq κ] [LawfulEqOrd κ] {key : α → κ} {items : List α}
    (h : Sorted key items) (item : α) : find? key (key item) items = some item ↔ item ∈ items := by
  refine ⟨List.mem_of_find?_eq_some, fun hmem => ?_⟩
  induction items with
  | nil => cases hmem
  | cons first items ih =>
    obtain ⟨hfirst, hitems⟩ := List.pairwise_cons.1 h
    rcases List.mem_cons.1 hmem with rfl | hmem
    · simp [find?]
    · -- the key of a later item is above that of the first
      have hne : key first ≠ key item := by
        intro heq
        have hlt := hfirst item hmem
        rw [heq, ReflOrd.compare_self] at hlt
        cases hlt
      simpa [find?, hne] using ih hitems hmem

/-- When items are their own keys, the ordered list has just these items. -/
theorem mem_ofList_id [DecidableEq α] [Ord α] [LawfulEqOrd α] [TransOrd α] {items : List α}
    {item : α} : item ∈ ofList (fun item => item) items ↔ item ∈ items := by
  have hsorted : Sorted (fun item => item) (ofList (fun item => item) items) := sorted_ofList _ _
  rw [← find?_key_eq_some hsorted, find?_ofList]
  constructor
  · intro h
    exact List.mem_reverse.1 (List.mem_of_find?_eq_some h)
  · intro h
    have hsome : (items.reverse.find? fun other => other = item).isSome = true :=
      List.find?_isSome.2 ⟨item, List.mem_reverse.2 h, decide_eq_true rfl⟩
    obtain ⟨found, hfound⟩ := Option.isSome_iff_exists.1 hsome
    have hitem : found = item := by simpa using List.find?_some hfound
    rw [hfound, hitem]

/-- Sorted lists with the same items are equal. -/
theorem eq_of_mem_iff [LawfulEqOrd κ] {key : α → κ} {items others : List α}
    (h : Sorted key items) (hothers : Sorted key others)
    (hmem : ∀ item, item ∈ items ↔ item ∈ others) : items = others := by
  have : Std.Irrefl fun a b => compare (key a) (key b) = .lt :=
    ⟨fun a hlt => by simp [ReflOrd.compare_self] at hlt⟩
  have : Std.Antisymm fun a b => compare (key a) (key b) = .lt :=
    ⟨fun a b hlt hgt => by rw [OrientedCmp.gt_of_lt hlt] at hgt; cases hgt⟩
  exact List.Pairwise.eq_of_mem_iff h hothers hmem

/-- Sorted lists in which the same is found are equal. -/
theorem eq_of_find?_eq [DecidableEq κ] [LawfulEqOrd κ] {key : α → κ} {items others : List α}
    (h : Sorted key items) (hothers : Sorted key others)
    (hfind : ∀ wanted, find? key wanted items = find? key wanted others) : items = others := by
  refine eq_of_mem_iff h hothers fun item => ?_
  rw [← find?_key_eq_some h, ← find?_key_eq_some hothers, hfind]

end Order

end SnippetCheck.Ordered
