import SnippetCheck.Json.Text
import SnippetCheck.Json.Value
import SnippetCheck.Document

/-!
# Reading JSON

The value of a JSON document. Between its parts may stand spaces, tabs and line ends, and
nothing may follow it.

Functions that call others on the rest of the document take a bound on the depth of such
calls; `ofText?` starts with one that the length of the document always suffices for.
-/

namespace SnippetCheck.Json

open SnippetCheck.Document (after?)

/-- Whether a character may stand between the parts of a document. -/
def isSpace (c : Char) : Bool :=
  c = ' ' || c = '\t' || c = '\n' || c = '\r'

/-- A text without the spaces in front of it. -/
def skipSpace (s : List Char) : List Char :=
  s.dropWhile isSpace

/-- The number that decimal digits denote. -/
def ofDigits (digits : List Char) : Nat :=
  digits.foldl (fun n c => 10 * n + (c.toNat - 0x30)) 0

/-- What follows the digits at the front of a text, of which there has to be one. -/
def afterDigits? (s : List Char) : Option (List Char) :=
  match s.takeWhile Char.isDigit with
  | [] => none
  | _ => some (s.dropWhile Char.isDigit)

/-- What follows an exponent, after its letter. -/
def afterExponent? : List Char → Option (List Char)
  | '+' :: s => afterDigits? s
  | '-' :: s => afterDigits? s
  | s => afterDigits? s

/-- What follows a fraction and an exponent at the front of a text, and whether there was one
of them. -/
def afterTail? (s : List Char) : Option (Bool × List Char) := do
  let (fraction, s) ← match s with
    | '.' :: s => (afterDigits? s).map fun s => (true, s)
    | s => some (false, s)
  match s with
  | 'e' :: s => (afterExponent? s).map fun s => (true, s)
  | 'E' :: s => (afterExponent? s).map fun s => (true, s)
  | s => return (fraction, s)

/-- The number at the front of a text, and what follows it. -/
def number? (s : List Char) : Option (Option Nat × List Char) :=
  let negative := s.head? = some '-'
  let s := if negative then s.drop 1 else s
  match s.takeWhile Char.isDigit with
  | [] => none
  | digits =>
    if digits.head? = some '0' && 1 < digits.length then none
    else
      (afterTail? (s.dropWhile Char.isDigit)).map fun (tail, rest) =>
        (if negative || tail then none else some (ofDigits digits), rest)

/-- The string after an opening quote, and what follows its closing quote. -/
def string? (s : List Char) : Option (Option String × List Char) :=
  (pieces? s).map fun (pieces, rest) => ((content? pieces).map String.ofList, rest)

mutual

/-- The value at the front of a text, and what follows it. -/
def value? : Nat → List Char → Option (Value × List Char)
  | 0, _ => none
  | n + 1, s =>
    match skipSpace s with
    | '"' :: s => (string? s).map fun (content, rest) => (.text content, rest)
    | '[' :: s => (items? n true s).map fun (items, rest) => (.array items, rest)
    | '{' :: s => (members? n true s).map fun (members, rest) => (.object members, rest)
    | 'n' :: s => (after? "ull".toList s).map fun rest => (.null, rest)
    | 't' :: s => (after? "rue".toList s).map fun rest => (.bool true, rest)
    | 'f' :: s => (after? "alse".toList s).map fun rest => (.bool false, rest)
    | s => (number? s).map fun (natural, rest) => (.number natural, rest)

/-- The items of an array up to its closing bracket, and what follows it. The first item needs
no comma in front, and may be missing. -/
def items? : Nat → Bool → List Char → Option (List Value × List Char)
  | 0, _, _ => none
  | n + 1, first, s =>
    match skipSpace s with
    | ']' :: rest => some ([], rest)
    | s =>
      (if first then some s else after? [','] s).bind fun s =>
        (value? n s).bind fun (item, s) =>
          (items? n false s).map fun (items, rest) => (item :: items, rest)

/-- The members of an object up to its closing brace, and what follows it. The first member
needs no comma in front, and may be missing. -/
def members? : Nat → Bool → List Char → Option (List (Option String × Value) × List Char)
  | 0, _, _ => none
  | n + 1, first, s =>
    match skipSpace s with
    | '}' :: rest => some ([], rest)
    | s =>
      (if first then some s else after? [','] s).bind fun s =>
        (after? ['"'] (skipSpace s)).bind fun s =>
          (string? s).bind fun (key, s) =>
            (after? [':'] (skipSpace s)).bind fun s =>
              (value? n s).bind fun (value, s) =>
                (members? n false s).map fun (members, rest) => ((key, value) :: members, rest)

end

/-- The document that a text holds. -/
def ofText? (text : String) : Option Value :=
  let s := text.toList
  match value? (2 * s.length + 2) s with
  | some (value, rest) => if (skipSpace rest).isEmpty then some value else none
  | none => none

end SnippetCheck.Json
