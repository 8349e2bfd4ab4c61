import SnippetCheck.Document
import SnippetCheck.Shell.Format
import SnippetCheck.Shell.Token

/-!
# Arithmetic Expressions

The values of expressions over decimal numbers and variables. Operators are ranked: those of
a later rank bind tighter, and operators of one rank are applied from the left. Numbers have
64 bits, and a division by zero has no value.
-/

namespace SnippetCheck.Shell.Arithmetic

open SnippetCheck.Document (after?)

/-- An operator between two numbers. -/
structure Operator where
  /-- How the operator is written. -/
  text : String
  /-- What the operator makes of two numbers. -/
  apply : Int → Int → Option Int

/-- A condition as a number. -/
def truth (holds : Bool) : Int :=
  if holds then 1 else 0

/-- An operator that compares two numbers. -/
def comparison (text : String) (holds : Int → Int → Bool) : Operator :=
  ⟨text, fun x y => some (truth (holds x y))⟩

/-- An operator that is not defined for a second number of zero. -/
def quotient (text : String) (divide : Int → Int → Int) : Operator :=
  ⟨text, fun x y => if y = 0 then none else some (divide x y)⟩

/-- The operators, by rank. An operator that another one begins with stands behind it. -/
def ranks : List (List Operator) := [
  [comparison "||" fun x y => x ≠ 0 || y ≠ 0],
  [comparison "&&" fun x y => x ≠ 0 && y ≠ 0],
  [comparison "==" (· = ·), comparison "!=" (· ≠ ·)],
  [comparison "<=" (· ≤ ·), comparison ">=" (· ≥ ·), comparison "<" (· < ·),
    comparison ">" (· > ·)],
  [⟨"+", fun x y => some (x + y)⟩, ⟨"-", fun x y => some (x - y)⟩],
  [⟨"*", fun x y => some (x * y)⟩, quotient "/" Int.tdiv, quotient "%" Int.tmod]]

/-- A number in 64 bits. -/
def wrapped (x : Int) : Int :=
  Int.bmod x Text.limit64

/-- A text without the blanks in front of it. -/
def skipSpace (s : List Char) : List Char :=
  s.dropWhile fun c => [' ', '\t', '\n'].contains c

/-- The operator of a rank at the front of a text, and what follows it. -/
def operator? (rank : List Operator) (s : List Char) : Option (Operator × List Char) :=
  rank.findSome? fun operator =>
    (after? operator.text.toList (skipSpace s)).map fun rest => (operator, rest)

/-- The value of a number or of a variable. A variable that is empty or not set counts as
zero. -/
def operand? (lookup : String → Option String) (word : List Char) : Option Int :=
  match word with
  | [] => none
  | c :: _ =>
    if c.isDigit then integer? word
    else
      match (lookup (String.ofList word)).getD "" with
      | "" => some 0
      | value => integer? value.toList

variable (lookup : String → Option String)

mutual

/-- The value of what binds tightest at the front of a text, and what follows it. -/
def primary? : Nat → List Char → Option (Int × List Char)
  | 0, _ => none
  | n + 1, s =>
    match skipSpace s with
    | '(' :: s => (ranked? n ranks s).bind fun (x, s) =>
      (after? [')'] (skipSpace s)).map fun s => (x, s)
    | '-' :: s => (primary? n s).map fun (x, s) => (wrapped (-x), s)
    | '+' :: s => primary? n s
    | '!' :: s => (primary? n s).map fun (x, s) => (truth (x = 0), s)
    | s => (operand? lookup (s.takeWhile isNameChar)).map fun x => (x, s.dropWhile isNameChar)

/-- The value of an expression with operators of some ranks, and what follows it. -/
def ranked? : Nat → List (List Operator) → List Char → Option (Int × List Char)
  | 0, _, _ => none
  | n + 1, [], s => primary? n s
  | n + 1, rank :: tighter, s =>
    (ranked? n tighter s).bind fun (x, s) => continued? n rank tighter x s

/-- The value of an expression whose first operand has a value, and what follows it. -/
def continued? : Nat → List Operator → List (List Operator) → Int → List Char →
    Option (Int × List Char)
  | 0, _, _, _, _ => none
  | n + 1, rank, tighter, x, s =>
    match operator? rank s with
    | some (operator, s) =>
      (ranked? n tighter s).bind fun (y, s) =>
        (operator.apply x y).bind fun z => continued? n rank tighter (wrapped z) s
    | none => some (x, s)

end

/-- The value of an expression. One that is blank has the value zero. -/
def value? (s : List Char) : Option Int :=
  if (skipSpace s).isEmpty then some 0
  else
    match ranked? lookup ((ranks.length + 3) * (s.length + 1)) ranks s with
    | some (x, rest) => if (skipSpace rest).isEmpty then some x else none
    | none => none

end SnippetCheck.Shell.Arithmetic
