/-!
# Ordered Lists

A list that is kept in the order of a key holds one item for every key. Adding an item puts
it where its key belongs, in the place of the item that has had the key. The item is then in
the list (`mem_insert_self`), and nothing else has come into it (`mem_of_mem_insert`).
-/

namespace SnippetCheck.Ordered

variable {α κ : Type} [Ord κ]

/-- Add an item to a list in the order of a key. -/
def insert (key : α → κ) (item : α) : List α → List α
  | [] => [item]
  | first :: items =>
    match compare (key item) (key first) with
    | .lt => item :: first :: items
    | .eq => item :: items
    | .gt => first :: insert key item items

/-- The items of a list in the order of a key; of several with one key, the last. -/
def ofList (key : α → κ) (items : List α) : List α :=
  items.foldl (fun sorted item => insert key item sorted) []

/-- The item with a key. -/
def find? [DecidableEq κ] (key : α → κ) (wanted : κ) (items : List α) : Option α :=
  items.find? fun item => key item = wanted

/-- What is in a list after an item is added was in it before or is the item. -/
theorem mem_of_mem_insert {key : α → κ} {item other : α} {items : List α}
    (h : other ∈ insert key item items) : other = item ∨ other ∈ items := by
  induction items with
  | nil => simpa [insert] using h
  | cons first items ih =>
    rw [insert] at h
    split at h
    · simpa using h
    · rcases List.mem_cons.1 h with rfl | h
      · exact .inl rfl
      · exact .inr (List.mem_cons_of_mem _ h)
    · rcases List.mem_cons.1 h with rfl | h
      · exact .inr List.mem_cons_self
      · exact (ih h).imp id (List.mem_cons_of_mem _)

/-- An added item is in the list. -/
theorem mem_insert_self (key : α → κ) (item : α) (items : List α) :
    item ∈ insert key item items := by
  induction items with
  | nil => simp [insert]
  | cons first items ih =>
    rw [insert]
    split
    · exact List.mem_cons_self
    · exact List.mem_cons_self
    · exact List.mem_cons_of_mem _ ih

end SnippetCheck.Ordered
