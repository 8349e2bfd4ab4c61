/-!
# TOML Values

A value of a TOML document, with its place in the text. Tables remember how they were
written, because that decides whether a later part of the document may add to them. The entries
of a table are looked up by `find?`, which describes what `put` does: `find?_put_self` and
`find?_put_of_ne`.
-/

namespace SnippetCheck.Toml

/-- A part of a text, in bytes. -/
structure Span where
  /-- Where the part starts. -/
  start : Nat
  /-- How long the part is. -/
  length : Nat
  deriving DecidableEq, Repr

/-- How a table came to be. -/
inductive TableKind where
  /-- Named by a header of its own, or the document itself. -/
  | header
  /-- Named only as a part of the header of another table. -/
  | implied
  /-- Named as a part of a dotted key. -/
  | dotted
  /-- Written in braces. -/
  | inlined
  deriving DecidableEq, Repr

/-- A value. -/
inductive Value where
  /-- A string. The span includes its quotes. -/
  | text (span : Span) (content : String)
  /-- A boolean, number or time. -/
  | scalar (span : Span)
  /-- An array. `ofTables` says that its items were named by headers. -/
  | array (span : Span) (ofTables : Bool) (items : List Value)
  /-- A table, by its keys. -/
  | table (kind : TableKind) (entries : List (String × Value))
  deriving Repr

/-- The empty table stands for any value. -/
instance : Inhabited Value := ⟨.table .header []⟩

/-- The keys of a table with their values. -/
abbrev Entries := List (String × Value)

namespace Entries

/-- The value of a key. -/
def find? (key : String) : Entries → Option Value
  | [] => none
  | (k, value) :: entries => if k = key then some value else find? key entries

/-- Give a key a value, in place of the one it has. -/
def put (key : String) (value : Value) : Entries → Entries
  | [] => [(key, value)]
  | (k, old) :: entries =>
    if k = key then (k, value) :: entries else (k, old) :: put key value entries

/-- A key has the value it was given. -/
@[simp]
theorem find?_put_self (key : String) (value : Value) (entries : Entries) :
    find? key (put key value entries) = some value := by
  induction entries with
  | nil => simp [put, find?]
  | cons entry entries ih =>
    obtain ⟨k, old⟩ := entry
    by_cases h : k = key <;> simp [put, find?, h, ih]

/-- Other keys keep their values. -/
theorem find?_put_of_ne {key other : String} (h : other ≠ key) (value : Value)
    (entries : Entries) : find? other (put key value entries) = find? other entries := by
  induction entries with
  | nil => simp [put, find?, Ne.symm h]
  | cons entry entries ih =>
    obtain ⟨k, old⟩ := entry
    by_cases hk : k = key
    · subst hk
      simp [put, find?, Ne.symm h]
    · rw [put, if_neg hk, find?, find?, ih]

end Entries

end SnippetCheck.Toml
