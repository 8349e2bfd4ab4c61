import SnippetCheck.Text.Lines

/-!
# Slugs

A slug is a text made safe to stand inside an identifier: its runs of ASCII letters and
digits, joined by single underscores. `slug` scans the text once; `runs` is the list of the
runs it keeps.
-/

namespace SnippetCheck.Text

/-- ASCII letters and digits. -/
def isAsciiAlnum (c : Char) : Bool :=
  c.isAlpha || c.isDigit

/-- Scan the rest of a slug. `gap` says that characters were left out since the last one
kept; such a gap is written as one underscore once a further character is kept. -/
def slugRest : Bool → List Char → List Char
  | _, [] => []
  | gap, c :: s =>
    if isAsciiAlnum c then
      if gap then '_' :: c :: slugRest false s else c :: slugRest false s
    else slugRest true s

/-- The slug of a text. -/
def slug (s : List Char) : List Char :=
  slugRest false (s.dropWhile fun c => !isAsciiAlnum c)

/-- The slug of a string. -/
def slugOf (s : String) : String :=
  String.ofList (slug s.toList)

/-- The runs left after a text is cut at every character that is not kept; two cuts next to
each other leave an empty run. -/
def cutRuns : List Char → List (List Char)
  | [] => [[]]
  | c :: s => if isAsciiAlnum c then consFirst c (cutRuns s) else [] :: cutRuns s

/-- The maximal runs of ASCII letters and digits of a text, in order. -/
def runs (s : List Char) : List (List Char) :=
  (cutRuns s).filter fun run => !run.isEmpty

end SnippetCheck.Text
