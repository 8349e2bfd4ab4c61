import SnippetCheck.Json.Text
import SnippetCheck.Json.Value
import SnippetCheck.Text.Decimal

/-!
# Writing JSON

A document is written in one line without spaces, or with a line for every item and member,
two spaces deeper than the brackets around it.
-/

namespace SnippetCheck.Json

open SnippetCheck.Text

/-- Parts with a separator between neighbours. -/
def separated (separator : List Char) : List (List Char) → List Char
  | [] => []
  | [part] => part
  | part :: parts => part ++ separator ++ separated separator parts

/-- A number; one that is no natural number is not written. -/
def writeNumber (n : Option Nat) : List Char :=
  decimal (n.getD 0)

/-- A string; one that is no text is written as the empty text. -/
def writeString (s : Option String) : List Char :=
  writeText (s.getD "").toList

/-- A boolean. -/
def writeBool (value : Bool) : List Char :=
  if value then "true".toList else "false".toList

/-- A line end, and spaces up to a depth. -/
def newline (depth : Nat) : List Char :=
  '\n' :: List.replicate (2 * depth) ' '

mutual

/-- A document in one line. -/
def compact : Value → List Char
  | .null => "null".toList
  | .bool value => writeBool value
  | .number n => writeNumber n
  | .text s => writeString s
  | .array items => '[' :: (separated [','] (compactItems items) ++ [']'])
  | .object members => '{' :: (separated [','] (compactMembers members) ++ ['}'])

/-- Items, each in one line. -/
def compactItems : List Value → List (List Char)
  | [] => []
  | item :: items => compact item :: compactItems items

/-- Members, each in one line. -/
def compactMembers : List (Option String × Value) → List (List Char)
  | [] => []
  | (key, value) :: members => (writeString key ++ ':' :: compact value) :: compactMembers members

end

mutual

/-- A document in several lines, at a depth. -/
def pretty (depth : Nat) : Value → List Char
  | .null => "null".toList
  | .bool value => writeBool value
  | .number n => writeNumber n
  | .text s => writeString s
  | .array [] => ['[', ']']
  | .array (item :: items) =>
    '[' :: (newline (depth + 1) ++
      separated (',' :: newline (depth + 1)) (prettyItems (depth + 1) (item :: items)) ++
      newline depth ++ [']'])
  | .object [] => ['{', '}']
  | .object (member :: members) =>
    '{' :: (newline (depth + 1) ++
      separated (',' :: newline (depth + 1)) (prettyMembers (depth + 1) (member :: members)) ++
      newline depth ++ ['}'])

/-- Items, each in several lines. -/
def prettyItems (depth : Nat) : List Value → List (List Char)
  | [] => []
  | item :: items => pretty depth item :: prettyItems depth items

/-- Members, each in several lines. -/
def prettyMembers (depth : Nat) : List (Option String × Value) → List (List Char)
  | [] => []
  | (key, value) :: members =>
    (writeString key ++ ':' :: ' ' :: pretty depth value) :: prettyMembers depth members

end

/-- The text of a document in one line. -/
def compactText (value : Value) : String :=
  String.ofList (compact value)

/-- The text of a document in several lines. -/
def prettyText (value : Value) : String :=
  String.ofList (pretty 0 value)

end SnippetCheck.Json
