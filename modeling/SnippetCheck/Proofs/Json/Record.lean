import Mathlib.Data.List.Nodup
import SnippetCheck.Json.Record

/-!
# Records Read Back

A record is read from the object of its members (`Record.ofValue?_ofMembers`), and lists, maps
and texts are read from the values that are built of them.
-/

namespace SnippetCheck.Json

variable {α β : Type}

/-- A member is looked up under its name. -/
private theorem lookup_map_some (members : List (String × Value)) (name : String) :
    (members.map fun (key, value) => (some key, value)).lookup (some name) =
      members.lookup name := by
  induction members with
  | nil => rfl
  | cons member members ih =>
    obtain ⟨key, value⟩ := member
    rw [List.map_cons, List.lookup_cons, List.lookup_cons, ih]
    rfl

/-- The record of an object with distinct keys has its members for fields. -/
theorem Record.ofValue?_ofMembers (names : List String) {members : List (String × Value)}
    (h : (members.map Prod.fst).Nodup) :
    ofValue? names (.ofMembers members) = some ⟨fun name => members.lookup name⟩ := by
  have hkeys : (members.map fun (key, value) => (some key, value)).map Prod.fst =
      (members.map Prod.fst).map some := by
    simp [Function.comp_def]
  have hnodup : ((members.map Prod.fst).map some).Nodup :=
    h.map fun _ _ => Option.some.inj
  have hcount (name : String) : ((members.map Prod.fst).map some).count (some name) ≤ 1 :=
    List.nodup_iff_count_le_one.1 hnodup (some name)
  simp only [ofValue?, Value.ofMembers, hkeys, lookup_map_some]
  rw [if_pos]
  simp [-List.map_map, hcount]

/-- A text is read from its value. -/
@[simp]
theorem Value.text?_ofText (s : String) : (ofText s).text? = some s := rfl

/-- Several values are read if each one is. -/
private theorem mapM_map_eq_some {f : β → Option α} {g : α → β} {items : List α}
    (hfg : ∀ item ∈ items, f (g item) = some item) : (items.map g).mapM f = some items := by
  induction items with
  | nil => rfl
  | cons item items ih =>
    rw [List.map_cons, List.mapM_cons, hfg item List.mem_cons_self,
      ih fun other hother => hfg other (List.mem_cons_of_mem item hother)]
    rfl

/-- A list is read from the array of its items. -/
theorem Value.list?_array {decode : Value → Option α} {encode : α → Value} {items : List α}
    (h : ∀ item ∈ items, decode (encode item) = some item) :
    (Value.array (items.map encode)).list? decode = some items :=
  mapM_map_eq_some h

/-- Texts are read from the array of their values. -/
@[simp]
theorem Value.list?_ofTexts (texts : List String) :
    (ofTexts texts).list? text? = some texts :=
  Value.list?_array fun s _ => text?_ofText s

/-- A map is read from the object of its members. -/
theorem Value.map?_ofMembers {decode : Value → Option α} {encode : α → Value}
    (h : ∀ item, decode (encode item) = some item) (entries : List (String × α)) :
    (Value.ofMembers (entries.map fun (key, item) => (key, encode item))).map? decode =
      some entries := by
  simp only [ofMembers, map?, List.map_map]
  exact mapM_map_eq_some fun entry _ => by simp [h]

end SnippetCheck.Json
