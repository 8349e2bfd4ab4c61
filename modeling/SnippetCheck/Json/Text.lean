/-!
# JSON Strings

A string is written between quotes, with escapes for quotes, backslashes and control
characters. Escapes by number denote UTF-16 code units; two of them can make up one
character.
-/

namespace SnippetCheck.Json

/-- A lower-case hexadecimal digit. -/
def hexDigit (n : Nat) : Char :=
  Nat.digitChar n

/-- The value of a hexadecimal digit. -/
def hexValue? (c : Char) : Option Nat :=
  if c.isDigit then some (c.toNat - 0x30)
  else if 'a' ≤ c ∧ c ≤ 'f' then some (c.toNat - 0x61 + 10)
  else if 'A' ≤ c ∧ c ≤ 'F' then some (c.toNat - 0x41 + 10)
  else none

/-- A character as it is written in a string. -/
def writeChar (c : Char) : List Char :=
  if c = '"' then ['\\', '"']
  else if c = '\\' then ['\\', '\\']
  else if c = '\x08' then ['\\', 'b']
  else if c = '\t' then ['\\', 't']
  else if c = '\n' then ['\\', 'n']
  else if c = '\x0c' then ['\\', 'f']
  else if c = '\r' then ['\\', 'r']
  else if c < ' ' then ['\\', 'u', '0', '0', hexDigit (c.toNat / 16), hexDigit (c.toNat % 16)]
  else [c]

/-- A text as it is written between quotes. -/
def writeText (s : List Char) : List Char :=
  '"' :: (s.flatMap writeChar ++ ['"'])

/-- A part of a string as it was written. -/
inductive Piece where
  /-- A character, written as itself or with an escape of its own. -/
  | char (c : Char)
  /-- A code unit, written by its number. -/
  | unit (n : Nat)

/-- The character that a letter after a backslash stands for. -/
def escaped? : Char → Option Char
  | '"' => some '"'
  | '\\' => some '\\'
  | '/' => some '/'
  | 'b' => some '\x08'
  | 'f' => some '\x0c'
  | 'n' => some '\n'
  | 'r' => some '\r'
  | 't' => some '\t'
  | _ => none

/-- The number of a code unit in four hexadecimal digits. -/
def codeUnit? (a b c d : Char) : Option Nat := do
  return (((← hexValue? a) * 16 + (← hexValue? b)) * 16 + (← hexValue? c)) * 16 + (← hexValue? d)

/-- Put a piece in front. -/
def prepend (piece : Piece) : List Piece × List Char → List Piece × List Char
  | (pieces, rest) => (piece :: pieces, rest)

/-- The pieces of a string after its opening quote, and what follows its closing quote. -/
def pieces? : List Char → Option (List Piece × List Char)
  | [] => none
  | '"' :: s => some ([], s)
  | '\\' :: 'u' :: a :: b :: c :: d :: s =>
    match codeUnit? a b c d with
    | some n => (pieces? s).map (prepend (.unit n))
    | none => none
  | '\\' :: c :: s =>
    match escaped? c with
    | some c => (pieces? s).map (prepend (.char c))
    | none => none
  | c :: s => if c < ' ' || c = '\\' then none else (pieces? s).map (prepend (.char c))

/-- The first half of a surrogate pair. -/
def isLeading (n : Nat) : Bool :=
  0xd800 ≤ n && n < 0xdc00

/-- The second half of a surrogate pair. -/
def isTrailing (n : Nat) : Bool :=
  0xdc00 ≤ n && n < 0xe000

/-- The text that pieces make up, unless one is half of a surrogate pair without the other. -/
def content? : List Piece → Option (List Char)
  | [] => some []
  | .char c :: pieces => (content? pieces).map (c :: ·)
  | .unit n :: .unit m :: pieces =>
    if isLeading n then
      if isTrailing m then
        (content? pieces).map (Char.ofNat (0x10000 + (n - 0xd800) * 0x400 + (m - 0xdc00)) :: ·)
      else none
    else if isTrailing n then none
    else (content? (.unit m :: pieces)).map (Char.ofNat n :: ·)
  | .unit n :: pieces =>
    if isLeading n || isTrailing n then none else (content? pieces).map (Char.ofNat n :: ·)

end SnippetCheck.Json
