/-!
# JSON Values

A value of a JSON document. A string can hold half of a surrogate pair, which is no text;
such a string has no content, but the document that it stands in is still well-formed.
-/

namespace SnippetCheck.Json

/-- A value. -/
inductive Value where
  | null
  | bool (value : Bool)
  /-- A number, with its value if it is written as a natural number. -/
  | number (natural : Option Nat)
  /-- A string, with its content if that is a text. -/
  | text (content : Option String)
  | array (items : List Value)
  /-- An object, with its keys in the order of the document. -/
  | object (members : List (Option String × Value))
  deriving Repr

/-- The null value stands for any value. -/
instance : Inhabited Value := ⟨.null⟩

namespace Value

/-- The value of a natural number. -/
def ofNat (n : Nat) : Value := .number (some n)

/-- The value of a text. -/
def ofText (s : String) : Value := .text (some s)

/-- The value of a list of texts. -/
def ofTexts (texts : List String) : Value := .array (texts.map ofText)

/-- An object with the given members. -/
def ofMembers (members : List (String × Value)) : Value :=
  .object (members.map fun (key, value) => (some key, value))

end Value

end SnippetCheck.Json
