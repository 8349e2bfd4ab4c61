import SnippetCheck.Text.Decimal
import SnippetCheck.Text.Utf8

/-!
# Formatted Output

Texts with escapes, and formats whose conversions are filled with arguments. A format is used
again as long as arguments are left.
-/

namespace SnippetCheck.Shell

open SnippetCheck.Text

/-- The bytes of a character. -/
def bytesOfChar (c : Char) : List UInt8 :=
  bytesOf c.toString

/-- The byte that a letter after a backslash stands for. -/
def escapedByte? : Char → Option UInt8
  | 'a' => some 7
  | 'b' => some 8
  | 't' => some 9
  | 'n' => some 10
  | 'v' => some 11
  | 'f' => some 12
  | 'r' => some 13
  | '\\' => some 92
  | _ => none

/-- Whether a character is an octal digit. -/
def isOctal (c : Char) : Bool :=
  '0' ≤ c && c ≤ '7'

/-- The byte that octal digits denote. -/
def octalByte (digits : List Char) : UInt8 :=
  UInt8.ofNat (digits.foldl (fun n c => 8 * n + (c.toNat - '0'.toNat)) 0)

/-- Up to three octal digits at the front of a text. -/
def octalDigits (s : List Char) : List Char :=
  (s.take 3).takeWhile isOctal

/-- A text with escapes as bytes, and whether it ends the output. An octal escape has a zero in
front of its digits if `zero` is set. -/
def unescape (zero : Bool) (s : List Char) : List UInt8 × Bool :=
  match s with
  | [] => ([], false)
  | '\\' :: 'c' :: _ => ([], true)
  | '\\' :: c :: s =>
    let digits := if zero then octalDigits s else octalDigits (c :: s)
    if (zero && c = '0') || (!zero && isOctal c) then
      let after := if zero then digits.length else digits.length - 1
      let (bytes, ends) := unescape zero (s.drop after)
      (octalByte digits :: bytes, ends)
    else
      let (bytes, ends) := unescape zero s
      match escapedByte? c with
      | some byte => (byte :: bytes, ends)
      | none => (92 :: (bytesOfChar c ++ bytes), ends)
  | c :: s =>
    let (bytes, ends) := unescape zero s
    (bytesOfChar c ++ bytes, ends)
termination_by s.length
decreasing_by
  all_goals
    simp only [List.length_drop, List.length_cons]
    omega

/-- A conversion in a format. -/
structure Conversion where
  /-- Whether the text is filled up at its end. -/
  left : Bool
  /-- Whether a number is filled up with zeros. -/
  zeros : Bool
  /-- The least width. -/
  width : Nat
  /-- How much of a text is written. -/
  precision : Option Nat
  /-- What kind of argument is written. -/
  letter : Char
  deriving Repr

/-- The number that decimal digits denote. -/
def numberOf (digits : List Char) : Nat :=
  digits.foldl (fun n c => 10 * n + (c.toNat - '0'.toNat)) 0

/-- The conversion after a percent sign, and what follows it. -/
def conversion? (s : List Char) : Option (Conversion × List Char) :=
  let flags := s.takeWhile fun c => ['-', '0', '+', ' ', '#'].contains c
  let s := s.drop flags.length
  let width := s.takeWhile Char.isDigit
  let s := s.drop width.length
  let (precision, s) := match s with
    | '.' :: s => (some (numberOf (s.takeWhile Char.isDigit)), s.dropWhile Char.isDigit)
    | s => (none, s)
  match s with
  | letter :: s =>
    some (⟨flags.contains '-', flags.contains '0', numberOf width, precision, letter⟩, s)
  | [] => none

/-- A text filled up to a width. -/
def Conversion.fill (conversion : Conversion) (numeric : Bool) (s : List Char) : List Char :=
  let missing := conversion.width - s.length
  if conversion.left then s ++ List.replicate missing ' '
  else if numeric && conversion.zeros then List.replicate missing '0' ++ s
  else List.replicate missing ' ' ++ s

/-- The integer that a text denotes, if it denotes one. -/
def integer? (s : List Char) : Option Int :=
  match s with
  | '-' :: digits => (String.ofList digits).toNat?.map fun n => -(n : Int)
  | '+' :: digits => (String.ofList digits).toNat?.map fun n => (n : Int)
  | digits => (String.ofList digits).toNat?.map fun n => (n : Int)

/-- An argument as a conversion writes it, and whether it could be read. -/
def Conversion.write (conversion : Conversion) (arg : List Char) : List UInt8 × Bool :=
  let text := fun (s : List Char) => bytesOf (String.ofList s)
  let number := fun (digits : Nat → List Char) =>
    match if arg.isEmpty then some 0 else integer? arg with
    | some n =>
      let sign := if n < 0 then ['-'] else []
      (text (conversion.fill true (sign ++ digits n.natAbs)), true)
    | none => (text (conversion.fill true ['0']), false)
  match conversion.letter with
  | 's' => (text (conversion.fill false (arg.take (conversion.precision.getD arg.length))), true)
  | 'b' => ((unescape true arg).1, true)
  | 'c' => (text (conversion.fill false (arg.take 1)), true)
  | 'd' | 'i' | 'u' => number decimal
  | 'o' => number (Nat.toDigits 8)
  | 'x' => number (Nat.toDigits 16)
  | _ => ([], false)

/-- A format filled with arguments. -/
structure Filled where
  /-- What is written. -/
  bytes : List UInt8 := []
  /-- The arguments that are left. -/
  args : List String
  /-- Whether all arguments could be read. -/
  ok : Bool := true

/-- Fill a format once. Missing arguments are empty. -/
def fillOnce : Nat → List Char → Filled → Filled
  | 0, _, filled => filled
  | _ + 1, [], filled => filled
  | n + 1, '%' :: '%' :: s, filled => fillOnce n s { filled with bytes := filled.bytes ++ [37] }
  | n + 1, '%' :: s, filled =>
    match conversion? s with
    | some (conversion, s) =>
      let (bytes, ok) := conversion.write (filled.args.headD "").toList
      fillOnce n s {
        bytes := filled.bytes ++ bytes, args := filled.args.tail, ok := filled.ok && ok }
    | none => { filled with ok := false }
  | n + 1, c :: s, filled =>
    let literal := c :: s.takeWhile (· ≠ '%')
    let (bytes, ends) := unescape false literal
    if ends then { filled with bytes := filled.bytes ++ bytes, args := [] }
    else fillOnce n (s.dropWhile (· ≠ '%')) { filled with bytes := filled.bytes ++ bytes }

/-- Fill a format, again and again until no argument is left. -/
def fillAll (format : List Char) : Nat → Filled → Filled
  | 0, filled => filled
  | n + 1, filled =>
    let next := fillOnce (format.length + 1) format filled
    if next.args.isEmpty || next.args.length = filled.args.length then next
    else fillAll format n next

/-- What is written for a format and arguments, and whether they could all be read. -/
def formatted (format : String) (args : List String) : List UInt8 × Bool :=
  let filled := fillAll format.toList (args.length + 1) { args }
  (filled.bytes, filled.ok)

end SnippetCheck.Shell
