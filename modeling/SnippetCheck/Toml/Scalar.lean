/-!
# Scalars

The written forms of booleans, numbers and times.
-/

namespace SnippetCheck.Toml.Scalar

/-- Whether a text is digits of a kind, with single underscores between them. -/
def isDigits (digit : Char → Bool) : List Char → Bool
  | [] => false
  | [c] => digit c
  | c :: '_' :: s => digit c && isDigits digit s
  | c :: s => digit c && isDigits digit s

/-- A text without the sign in front of it. -/
def unsigned : List Char → List Char
  | '+' :: s => s
  | '-' :: s => s
  | s => s

/-- Whether a text is a decimal integer without a sign. -/
def isUnsignedInteger (s : List Char) : Bool :=
  isDigits Char.isDigit s && (s.length = 1 || s.head? != some '0')

/-- Whether a character is a hexadecimal digit. -/
def isHexDigit (c : Char) : Bool :=
  c.isDigit || ('a' ≤ c && c ≤ 'f') || ('A' ≤ c && c ≤ 'F')

/-- Whether a text is an integer. -/
def isInteger (s : List Char) : Bool :=
  match s with
  | '0' :: 'x' :: digits => isDigits isHexDigit digits
  | '0' :: 'o' :: digits => isDigits (fun c => '0' ≤ c && c ≤ '7') digits
  | '0' :: 'b' :: digits => isDigits (fun c => c = '0' || c = '1') digits
  | _ => isUnsignedInteger (unsigned s)

/-- Whether a text is an exponent, after its letter. -/
def isExponent (s : List Char) : Bool :=
  isDigits Char.isDigit (unsigned s)

/-- Whether a character starts an exponent. -/
def isExponentLetter (c : Char) : Bool :=
  c = 'e' || c = 'E'

/-- Whether a text is a floating-point number. -/
def isFloat (s : List Char) : Bool :=
  let s := unsigned s
  if s = "inf".toList || s = "nan".toList then true
  else
    let mantissa := s.takeWhile fun c => !isExponentLetter c
    let exponent := s.dropWhile fun c => !isExponentLetter c
    let whole := mantissa.takeWhile (· ≠ '.')
    let fraction := mantissa.dropWhile (· ≠ '.')
    isUnsignedInteger whole &&
      (match fraction with
      -- without a point only the exponent tells it from an integer
      | [] => !exponent.isEmpty
      | _ :: digits => isDigits Char.isDigit digits) &&
      (match exponent with
      | [] => true
      | _ :: digits => isExponent digits)

/-- The number that two digits at the front of a text denote, and what follows them. -/
def twoDigits? : List Char → Option (Nat × List Char)
  | a :: b :: s =>
    if a.isDigit && b.isDigit then some (10 * (a.toNat - 0x30) + (b.toNat - 0x30), s) else none
  | _ => none

/-- The number of days of a month. -/
def daysOf (year month : Nat) : Nat :=
  if month = 2 then
    if year % 4 = 0 && (year % 100 != 0 || year % 400 = 0) then 29 else 28
  else if month = 4 || month = 6 || month = 9 || month = 11 then 30
  else 31

/-- What follows a date at the front of a text. -/
def afterDate? (s : List Char) : Option (List Char) := do
  let (century, s) ← twoDigits? s
  let (year, s) ← twoDigits? s
  match s with
  | '-' :: s =>
    let (month, s) ← twoDigits? s
    match s with
    | '-' :: s =>
      let (day, s) ← twoDigits? s
      if 1 ≤ month && month ≤ 12 && 1 ≤ day && day ≤ daysOf (100 * century + year) month then
        some s
      else none
    | _ => none
  | _ => none

/-- What follows a fraction of a second, if there is one. -/
def afterFraction? (s : List Char) : Option (List Char) :=
  match s with
  | '.' :: c :: s => if c.isDigit then some (s.dropWhile Char.isDigit) else none
  | '.' :: [] => none
  | _ => some s

/-- What follows a time of day at the front of a text. Seconds may be left out. -/
def afterTime? (s : List Char) : Option (List Char) := do
  let (hour, s) ← twoDigits? s
  match s with
  | ':' :: s =>
    let (minute, s) ← twoDigits? s
    if !(hour ≤ 23 && minute ≤ 59) then none
    else
      match s with
      | ':' :: s =>
        let (second, s) ← twoDigits? s
        if second ≤ 60 then afterFraction? s else none
      | _ => some s
  | _ => none

/-- Whether a text is the distance of a local time from the universal time, or empty. -/
def isOffset (s : List Char) : Bool :=
  match s with
  | [] => true
  | ['Z'] | ['z'] => true
  | c :: s =>
    (c = '+' || c = '-') &&
      match twoDigits? s with
      | some (hour, ':' :: s) =>
        match twoDigits? s with
        | some (minute, []) => hour ≤ 23 && minute ≤ 59
        | _ => false
      | _ => false

/-- Whether a text is a date, a time or both. -/
def isTime (s : List Char) : Bool :=
  match afterDate? s with
  | some [] => true
  | some (c :: s) =>
    (c = 'T' || c = 't' || c = ' ') && ((afterTime? s).map isOffset).getD false
  | none => afterTime? s = some []

/-- Whether a text is a boolean, a number or a time. -/
def isScalar (s : List Char) : Bool :=
  s = "true".toList || s = "false".toList || isInteger s || isFloat s || isTime s

/-- Whether a character may stand in a scalar. -/
def isScalarChar (c : Char) : Bool :=
  c.isAlphanum || c = '_' || c = '+' || c = '-' || c = '.' || c = ':'

end SnippetCheck.Toml.Scalar
