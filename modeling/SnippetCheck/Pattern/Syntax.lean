import SnippetCheck.Pattern.CharSet

/-!
# Patterns

The form of a pattern after it has been read. Alternatives are tried in their order, and a
greedy repetition prefers another round to none.
-/

namespace SnippetCheck.Pattern

/-- A condition on a place in a text. -/
inductive Place where
  /-- The start of the text. -/
  | textStart
  /-- The end of the text. -/
  | textEnd
  /-- The start of a line. With `returns`, carriage returns end lines too. -/
  | lineStart (returns : Bool)
  /-- The end of a line. With `returns`, carriage returns end lines too. -/
  | lineEnd (returns : Bool)
  /-- A place with a word character on exactly one side. -/
  | wordBoundary (set : CharSet)
  /-- A place with word characters on both sides or on neither. -/
  | noWordBoundary (set : CharSet)
  /-- A place with a word character after it and none before it. -/
  | wordStart (set : CharSet)
  /-- A place with a word character before it and none after it. -/
  | wordEnd (set : CharSet)
  /-- A place with no word character before it. -/
  | wordStartHalf (set : CharSet)
  /-- A place with no word character after it. -/
  | wordEndHalf (set : CharSet)

/-- A pattern. -/
inductive Node where
  /-- Matches the empty text. -/
  | empty
  /-- Matches one character of a set. -/
  | char (set : CharSet)
  /-- Matches the empty text at a place. -/
  | place (condition : Place)
  /-- Matches what the body matches, and remembers it under a number. -/
  | capture (index : Nat) (body : Node)
  /-- Matches one pattern and then another. -/
  | seq (first second : Node)
  /-- Matches one pattern or else another. -/
  | alt (first second : Node)
  /-- Matches the body again and again, within bounds. -/
  | rep (least : Nat) (most : Option Nat) (greedy : Bool) (body : Node)
  deriving Inhabited

namespace Node

/-- The least number of characters that a match has. -/
def leastLength : Node → Nat
  | .empty => 0
  | .char _ => 1
  | .place _ => 0
  | .capture _ body => body.leastLength
  | .seq first second => first.leastLength + second.leastLength
  | .alt first second => min first.leastLength second.leastLength
  | .rep least _ _ body => least * body.leastLength

/-- Whether every match is empty. -/
def onlyEmpty : Node → Bool
  | .empty => true
  | .char _ => false
  | .place _ => true
  | .capture _ body => body.onlyEmpty
  | .seq first second => first.onlyEmpty && second.onlyEmpty
  | .alt first second => first.onlyEmpty && second.onlyEmpty
  | .rep _ most _ body => most = some 0 || body.onlyEmpty

/-- A repetition. One that needs no round at all is the empty pattern, and rounds that can
only be empty are not repeated. -/
def repeated (least : Nat) (most : Option Nat) (greedy : Bool) (body : Node) : Node :=
  let (least, most) :=
    if body.onlyEmpty then (min least 1, some ((most.map fun n => min n 1).getD 1))
    else (least, most)
  if most = some 0 then .empty
  else if least = 1 && most = some 1 then body
  else .rep least most greedy body

/-- The greatest number of a group, or zero. -/
def lastGroup : Node → Nat
  | .empty | .char _ | .place _ => 0
  | .capture index body => max index body.lastGroup
  | .seq first second => max first.lastGroup second.lastGroup
  | .alt first second => max first.lastGroup second.lastGroup
  | .rep _ _ _ body => body.lastGroup

end Node

end SnippetCheck.Pattern
