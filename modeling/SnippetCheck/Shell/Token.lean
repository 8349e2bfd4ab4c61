import SnippetCheck.Document
import SnippetCheck.Shell.Script

/-!
# Tokens Of Scripts

A script is read as words, operators and line ends. Between words may stand blanks, and a
number sign starts a comment.

Functions that call others on the rest of a script take a bound on the depth of such calls;
`tokens?` starts with one that the length of the script always suffices for.
-/

namespace SnippetCheck.Shell

open SnippetCheck.Document (after?)

/-- A token. -/
inductive Token where
  /-- A word. -/
  | word (pieces : Word)
  /-- An operator. -/
  | operator (text : String)
  /-- The number of a stream, in front of a redirection. -/
  | stream (n : Nat)
  /-- A line end. -/
  | newline
  deriving Repr

/-- Whether a character may start a name. -/
def isNameStart (c : Char) : Bool :=
  c.isAlpha || c = '_'

/-- Whether a character may stand in a name. -/
def isNameChar (c : Char) : Bool :=
  isNameStart c || c.isDigit

/-- Whether a character alone names a parameter. -/
def isSpecialName (c : Char) : Bool :=
  c.isDigit || ['@', '*', '#', '?', '$', '!', '-'].contains c

/-- Whether a character ends a word. -/
def endsWord (c : Char) : Bool :=
  [' ', '\t', '\n', ';', '&', '|', '(', ')', '<', '>'].contains c

/-- The name of a parameter at the front of a text, and what follows it. -/
def name? : List Char → Option (String × List Char)
  | [] => none
  | c :: s =>
    if isNameStart c then
      some (String.ofList (c :: s.takeWhile isNameChar), s.dropWhile isNameChar)
    else if isSpecialName c then some (c.toString, s)
    else none

/-- The text up to the parenthesis that closes a script, and what follows it. A quote of the
given kind is open. -/
def untilClosed? (depth : Nat) (quote : Option Char) :
    List Char → Option (List Char × List Char)
  | [] => none
  | '\\' :: c :: s =>
    (untilClosed? depth quote s).map fun (inner, rest) => ('\\' :: c :: inner, rest)
  | c :: s =>
    if quote = some c then
      (untilClosed? depth none s).map fun (inner, rest) => (c :: inner, rest)
    else if quote.isNone && (c = '\'' || c = '"') then
      (untilClosed? depth (some c) s).map fun (inner, rest) => (c :: inner, rest)
    else if quote.isNone && c = '(' then
      (untilClosed? (depth + 1) quote s).map fun (inner, rest) => (c :: inner, rest)
    else if quote.isNone && c = ')' then
      match depth with
      | 0 => some ([], s)
      | depth + 1 => (untilClosed? depth quote s).map fun (inner, rest) => (c :: inner, rest)
    else (untilClosed? depth quote s).map fun (inner, rest) => (c :: inner, rest)

/-- The arithmetic expression that stands in a second pair of parentheses. -/
def expression? (script : List Char) : Option (List Char) :=
  match script with
  | '(' :: s =>
    match untilClosed? 0 none s with
    | some (expression, []) => some expression
    | _ => none
  | _ => none

/-- Where a part of a word stands. -/
inductive Place where
  /-- In a word. -/
  | word
  /-- Between quotes. -/
  | quotes
  /-- Between the braces around a parameter. -/
  | braces
  /-- In an arithmetic expression. -/
  | arithmetic
  deriving DecidableEq, Repr

/-- Whether a character ends what stands at a place. -/
def Place.isEnd : Place → Char → Bool
  | .word, c => endsWord c
  | .quotes, c => c = '"'
  | .braces, c => c = '\x7d'
  | .arithmetic, _ => false

/-- Whether what stands at a place may end with the script. -/
def Place.mayEnd (place : Place) : Bool :=
  place = .word || place = .arithmetic

/-- Whether a backslash at a place takes the meaning of a character. -/
def Place.isEscapable : Place → Char → Bool
  | .quotes, c => ['$', '`', '"', '\\'].contains c
  | _, _ => true

mutual

/-- The parts of a word up to the end of its place. -/
def pieces? : Nat → Place → List Char → Option (Word × List Char)
  | 0, _, _ => none
  | _ + 1, place, [] => if place.mayEnd then some ([], []) else none
  | n + 1, place, c :: s =>
    if place.isEnd c then some ([], c :: s)
    else
      (piece? n place c s).bind fun (first, s) =>
        (pieces? n place s).map fun (rest, s) => (first ++ rest, s)

/-- The parts that start with a character, and what follows them. -/
def piece? : Nat → Place → Char → List Char → Option (Word × List Char)
  | 0, _, _, _ => none
  | n + 1, place, c, s =>
    let quoted := place = .quotes
    match c, s with
    -- a backslash joins the line to the next one
    | '\\', '\n' :: s => some ([], s)
    | '\\', d :: s =>
      if place.isEscapable d then some ([.char d true], s)
      else some ([.char '\\' quoted, .char d quoted], s)
    | '$', s => (dollar? n quoted s).map fun (piece, s) => ([piece], s)
    | '`', s =>
      match s.dropWhile (· ≠ '`') with
      | _ :: rest => some ([.output (s.takeWhile (· ≠ '`')) quoted], rest)
      | [] => none
    | '\'', s =>
      -- between double quotes a single quote is a character like any other
      if quoted then some ([.char c true], s)
      else
        match s.dropWhile (· ≠ '\'') with
        | _ :: rest =>
          some (.nothing :: (s.takeWhile (· ≠ '\'')).map fun c => .char c true, rest)
        | [] => none
    | '"', s =>
      (pieces? n .quotes s).map fun (inner, s) => (.nothing :: inner, s.drop 1)
    | c, s => some ([.char c quoted], s)

/-- What a dollar sign introduces, and what follows it. -/
def dollar? : Nat → Bool → List Char → Option (Piece × List Char)
  | 0, _, _ => none
  | n + 1, quoted, s =>
    match s with
    | '(' :: s => (untilClosed? 0 none s).bind fun (script, s) =>
      match expression? script with
      | some expression => (pieces? n .arithmetic expression).map fun (word, _) =>
        (.arithmetic word quoted, s)
      | none => some (.output script quoted, s)
    | '\x7b' :: '#' :: s =>
      -- without a name right before the brace the sign itself is the parameter
      match name? s with
      | some (name, '\x7d' :: s) => some (.length name quoted, s)
      | _ => braced? n quoted ('#' :: s)
    | '\x7b' :: s => braced? n quoted s
    | s =>
      match name? s with
      | some (name, s) => some (.parameter name quoted, s)
      | none => some (.char '$' quoted, s)

/-- A parameter between braces, after the opening one, and what follows the closing one. -/
def braced? : Nat → Bool → List Char → Option (Piece × List Char)
  | 0, _, _ => none
  | n + 1, quoted, s =>
    (name? s).bind fun (name, s) =>
      let edited := fun (make : Word → Piece) (s : List Char) =>
        (pieces? n .braces s).map fun (word, s) => (make word, s.drop 1)
      match s with
      | '\x7d' :: s => some (.parameter name quoted, s)
      | '#' :: '#' :: s => edited (.trimmed name true true · quoted) s
      | '#' :: s => edited (.trimmed name true false · quoted) s
      | '%' :: '%' :: s => edited (.trimmed name false true · quoted) s
      | '%' :: s => edited (.trimmed name false false · quoted) s
      | ':' :: '-' :: s => edited (.orElse name true false · quoted) s
      | '-' :: s => edited (.orElse name false false · quoted) s
      | ':' :: '=' :: s => edited (.orElse name true true · quoted) s
      | '=' :: s => edited (.orElse name false true · quoted) s
      | ':' :: '+' :: s => edited (.andThen name true · quoted) s
      | '+' :: s => edited (.andThen name false · quoted) s
      | _ => none

end

/-- The operators, longer ones first. -/
def operators : List String :=
  ["&&", "||", ";;", ">>", ">&", "<&", ";", "&", "|", "(", ")", ">", "<"]

/-- The operator at the front of a text, and what follows it. -/
def operator? (s : List Char) : Option (String × List Char) :=
  operators.findSome? fun text => (after? text.toList s).map fun rest => (text, rest)

/-- The number of a stream at the front of a text, and the redirection that follows it. -/
def stream? (s : List Char) : Option (Nat × List Char) :=
  match s with
  | c :: d :: s =>
    if c.isDigit && (d = '<' || d = '>') then some (c.toNat - '0'.toNat, d :: s) else none
  | _ => none

/-- The tokens of a text. -/
def tokensFrom? : Nat → List Char → Option (List Token)
  | 0, _ => none
  | n + 1, s =>
    match s with
    | [] => some []
    | ' ' :: s | '\t' :: s | '\\' :: '\n' :: s => tokensFrom? n s
    | '#' :: s => tokensFrom? n (s.dropWhile (· ≠ '\n'))
    | '\n' :: s => (tokensFrom? n s).map (.newline :: ·)
    | s =>
      match stream? s, operator? s with
      | some (stream, s), _ => (tokensFrom? n s).map (.stream stream :: ·)
      | none, some (text, s) => (tokensFrom? n s).map (.operator text :: ·)
      | none, none =>
        (pieces? n .word s).bind fun (word, s) => (tokensFrom? n s).map (.word word :: ·)

/-- The tokens of a script. -/
def tokens? (script : List Char) : Option (List Token) :=
  tokensFrom? (4 * script.length + 4) script

end SnippetCheck.Shell
