import SnippetCheck.Toml.Value

/-!
# Assembling Tables

A document adds to its tables by headers and by dotted keys. A table can be named by one
header only, and an inline table or an array of values is complete as it stands; any other
addition is refused.
-/

namespace SnippetCheck.Toml

/-- Change the table that keys lead to. Tables on the way that do not exist are made, of kind
`fresh`, and an array of tables is entered at its last table. Dotted keys may not enter a
table that has a header of its own. -/
def within (fresh : TableKind) (change : TableKind → Entries → Option (TableKind × Entries)) :
    List String → TableKind → Entries → Option (TableKind × Entries)
  | [], kind, entries => change kind entries
  | key :: keys, kind, entries =>
    match Entries.find? key entries with
    | none => do
      let (innerKind, inner) ← within fresh change keys fresh []
      return (kind, Entries.put key (.table innerKind inner) entries)
    | some (.table innerKind inner) =>
      -- what stands in braces is complete, and so, for dotted keys, is what a header has named
      if innerKind = .inlined || (fresh = .dotted && innerKind = .header) then none
      else do
        let (innerKind, inner) ← within fresh change keys innerKind inner
        return (kind, Entries.put key (.table innerKind inner) entries)
    | some (.array span true items) =>
      -- only the last table of an array is still open
      match items.reverse with
      | .table innerKind inner :: before => do
        let (innerKind, inner) ← within fresh change keys innerKind inner
        let items := (Value.table innerKind inner :: before).reverse
        return (kind, Entries.put key (.array span true items) entries)
      | _ => none
    | some _ => none

/-- Add a key with a value to a table. A table made by dotted keys takes further keys only by
dotted keys, and a key is never given a second value. -/
def addEntry (dotted : Bool) (key : String) (value : Value) (kind : TableKind)
    (entries : Entries) : Option (TableKind × Entries) :=
  if (kind = .dotted) != dotted then none
  else
    match Entries.find? key entries with
    | some _ => none
    | none => some (kind, entries ++ [(key, value)])

/-- Add a dotted key with a value to a table. -/
def addDotted (keys : List String) (value : Value) (kind : TableKind) (entries : Entries) :
    Option (TableKind × Entries) :=
  match keys.reverse with
  | [] => none
  | key :: path =>
    within .dotted (addEntry (!path.isEmpty) key value) path.reverse kind entries

/-- Start the table of a header. -/
def openTable (key : String) (kind : TableKind) (entries : Entries) :
    Option (TableKind × Entries) :=
  match Entries.find? key entries with
  | none => some (kind, entries ++ [(key, .table .header [])])
  | some (.table .implied inner) => some (kind, Entries.put key (.table .header inner) entries)
  | some _ => none

/-- Start the next table of a header in double brackets. -/
def openItem (span : Span) (key : String) (kind : TableKind) (entries : Entries) :
    Option (TableKind × Entries) :=
  match Entries.find? key entries with
  | none => some (kind, entries ++ [(key, .array span true [.table .header []])])
  | some (.array span true items) =>
    some (kind, Entries.put key (.array span true (items ++ [.table .header []])) entries)
  | some _ => none

/-- One statement of a document. -/
inductive Statement where
  /-- A header. -/
  | table (keys : List String)
  /-- A header in double brackets. -/
  | item (span : Span) (keys : List String)
  /-- A key with a value. -/
  | entry (keys : List String) (value : Value)

/-- The tables of a document so far, and the keys of the table that entries go to. -/
structure Assembly where
  /-- The entries of the document. -/
  entries : Entries := []
  /-- The keys of the last header. -/
  current : List String := []

namespace Assembly

/-- Change the table that keys of a header lead to. -/
def change (assembly : Assembly) (keys : List String)
    (f : TableKind → Entries → Option (TableKind × Entries)) : Option Entries :=
  (within .implied f keys .header assembly.entries).map Prod.snd

/-- Add a statement. -/
def add (assembly : Assembly) : Statement → Option Assembly
  | .table keys =>
    match keys.reverse with
    | [] => none
    | key :: path =>
      (assembly.change path.reverse (openTable key)).map fun entries => ⟨entries, keys⟩
  | .item span keys =>
    match keys.reverse with
    | [] => none
    | key :: path =>
      (assembly.change path.reverse (openItem span key)).map fun entries => ⟨entries, keys⟩
  | .entry keys value =>
    (assembly.change assembly.current (addDotted keys value)).map fun entries =>
      { assembly with entries }

end Assembly

/-- The entries of a document of statements. -/
def assemble (statements : List Statement) : Option Entries :=
  (statements.foldlM Assembly.add {}).map Assembly.entries

end SnippetCheck.Toml
