/-!
# File Trees

A tree of files and directories. A location is the list of names on the way from the root,
which is a directory in every tree. The operations here do not look at the directories
above a location; those on paths do. All of them are described by what `get?` finds afterwards:
`get?_set_self`, `get?_set_of_ne` and `get?_eraseIf`.
-/

namespace SnippetCheck.Files

/-- The names on the way from the root. -/
abbrev Location := List String

/-- What stands at a location. -/
inductive Node where
  /-- A file with its bytes. -/
  | file (bytes : ByteArray)
  /-- A directory. -/
  | directory

/-- The order of locations: what is above comes first, and neighbours are in the order of their
names. -/
def locationLe : Location → Location → Bool
  | [], _ => true
  | _ :: _, [] => false
  | name :: names, other :: others =>
    if name = other then locationLe names others else name < other

/-- Whether a node is a file. -/
def Node.isFile : Node → Bool
  | .file _ => true
  | .directory => false

/-- A tree of files and directories. -/
structure Tree where
  /-- What stands at locations other than the root. The first entry of a location counts. -/
  entries : List (Location × Node)

namespace Tree

/-- The tree that is only a root. -/
def empty : Tree := ⟨[]⟩

/-- What stands at a location. -/
def get? (tree : Tree) (location : Location) : Option Node :=
  if location = [] then some .directory else tree.entries.lookup location

/-- Whether a directory stands at a location. -/
def holdsDirectory (tree : Tree) (location : Location) : Bool :=
  match tree.get? location with
  | some .directory => true
  | _ => false

/-- Remove every location that satisfies a condition. -/
def eraseIf (tree : Tree) (condition : Location → Bool) : Tree :=
  ⟨tree.entries.filter fun entry => !condition entry.1⟩

/-- Remove what stands at a location. -/
def erase (tree : Tree) (location : Location) : Tree :=
  tree.eraseIf fun other => other = location

/-- Put a node at a location. -/
def set (tree : Tree) (location : Location) (node : Node) : Tree :=
  ⟨(location, node) :: (tree.erase location).entries⟩

/-- Remove what stands at a location and below it. -/
def eraseFrom (tree : Tree) (location : Location) : Tree :=
  tree.eraseIf location.isPrefixOf

/-- The locations below a location, each with the names on the way to it from there. -/
def below (tree : Tree) (location : Location) : List (Location × Node) :=
  tree.entries.filterMap fun (other, node) =>
    if location.isPrefixOf other && location.length < other.length then
      some (other.drop location.length, node)
    else none

/-- The names in a directory. -/
def names (tree : Tree) (location : Location) : List String :=
  (tree.below location).filterMap fun (rest, _) =>
    match rest with
    | [name] => some name
    | _ => none

/-- Entries that are filtered by their locations are looked up like the others. -/
theorem lookup_filter (entries : List (Location × Node)) (condition : Location → Bool)
    (location : Location) :
    (entries.filter fun entry => !condition entry.1).lookup location =
      if condition location then none else entries.lookup location := by
  induction entries with
  | nil => simp
  | cons entry entries ih =>
    obtain ⟨other, node⟩ := entry
    by_cases h : location = other
    · subst h
      cases hc : condition location <;> simp [hc, ih]
    · have hb : (location == other) = false := by simpa using h
      cases hc : condition other <;> simp [hc, ih, List.lookup_cons, hb]

/-- Removing locations leaves the others as they are. -/
theorem get?_eraseIf (tree : Tree) (condition : Location → Bool) (location : Location) :
    (tree.eraseIf condition).get? location =
      if location = [] then some .directory
      else if condition location then none else tree.get? location := by
  by_cases h : location = []
  · simp [get?, h]
  · simp [get?, h, eraseIf, lookup_filter]

/-- A location holds the node that was put there. -/
@[simp]
theorem get?_set_self (tree : Tree) {location : Location} (node : Node) (h : location ≠ []) :
    (tree.set location node).get? location = some node := by
  simp [get?, set, h]

/-- Putting a node at a location leaves the others as they are. -/
theorem get?_set_of_ne (tree : Tree) {location other : Location} (node : Node)
    (h : other ≠ location) : (tree.set location node).get? other = tree.get? other := by
  have hb : (other == location) = false := by simpa using h
  have hf := lookup_filter tree.entries (fun entry => decide (entry = location)) other
  simp only [decide_eq_false h, Bool.false_eq_true, if_false] at hf
  simp [get?, set, erase, eraseIf, List.lookup_cons, hb, hf]

end Tree

end SnippetCheck.Files
