/-!
# Decimal Numerals

Numbers are written with the digits 0 to 9 and no other mark, possibly with zeros in front up to
a width. A number that needs more digits than the width keeps them all.
-/

namespace SnippetCheck.Text

/-- The least number that needs more than 32 bits. -/
def limit32 : Nat := 0x100000000

/-- The least number that needs more than 64 bits. -/
def limit64 : Nat := 0x10000000000000000

/-- The decimal digits of a number. -/
def decimal (n : Nat) : List Char :=
  Nat.toDigits 10 n

/-- The decimal digits of a number, with zeros in front up to `width` digits. -/
def decimalPadded (width n : Nat) : List Char :=
  let digits := decimal n
  List.replicate (width - digits.length) '0' ++ digits

/-- Padding never shortens a numeral. -/
theorem length_decimal_le_length_decimalPadded (width n : Nat) :
    (decimal n).length ≤ (decimalPadded width n).length := by
  simp [decimalPadded]

end SnippetCheck.Text
