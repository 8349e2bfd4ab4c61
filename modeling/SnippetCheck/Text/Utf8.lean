/-!
# Reading Bytes As Text

The output of a command is read as UTF-8 however it is encoded: every longest run of bytes
that begins a character without completing it, and every byte that begins none, is read as
the replacement character.
-/

namespace SnippetCheck.Text

/-- What the first byte of a character announces about the bytes that complete it. -/
structure Lead where
  /-- How many bytes complete the character. -/
  count : Nat
  /-- The least byte that may come next. -/
  low : UInt8
  /-- The greatest byte that may come next. -/
  high : UInt8
  /-- The bits of the character that the first byte holds. -/
  bits : Nat
  deriving DecidableEq, Repr

/-- What a byte announces, when it begins a character of several bytes. -/
def Lead.of? (byte : UInt8) : Option Lead :=
  let n := byte.toNat
  if 0xc2 ≤ n ∧ n ≤ 0xdf then some ⟨1, 0x80, 0xbf, n - 0xc0⟩
  else if n = 0xe0 then some ⟨2, 0xa0, 0xbf, 0⟩
  else if n = 0xed then some ⟨2, 0x80, 0x9f, 13⟩
  else if 0xe1 ≤ n ∧ n ≤ 0xef then some ⟨2, 0x80, 0xbf, n - 0xe0⟩
  else if n = 0xf0 then some ⟨3, 0x90, 0xbf, 0⟩
  else if 0xf1 ≤ n ∧ n ≤ 0xf3 then some ⟨3, 0x80, 0xbf, n - 0xf0⟩
  else if n = 0xf4 then some ⟨3, 0x80, 0x8f, 4⟩
  else none

/-- The bytes at the front that go on with a character, up to a number of them. The first has
bounds of its own. -/
def continuation : Nat → UInt8 → UInt8 → List UInt8 → List UInt8
  | n + 1, low, high, byte :: bytes =>
    if low ≤ byte ∧ byte ≤ high then byte :: continuation n 0x80 0xbf bytes else []
  | _, _, _, _ => []

/-- What stands for bytes that are no character. -/
def replacement : Char := '\ufffd'

/-- The character that a first byte and the bytes after it make up. -/
def Lead.complete (lead : Lead) (rest : List UInt8) : Char :=
  if rest.length = lead.count then
    Char.ofNat (rest.foldl (fun n byte => n * 0x40 + (byte.toNat - 0x80)) lead.bits)
  else replacement

/-- The text that bytes are read as. -/
def readBytes : List UInt8 → List Char
  | [] => []
  | byte :: bytes =>
    match Lead.of? byte with
    | some lead =>
      let rest := continuation lead.count lead.low lead.high bytes
      lead.complete rest :: readBytes (bytes.drop rest.length)
    | none =>
      (if byte < 0x80 then Char.ofNat byte.toNat else replacement) :: readBytes bytes
termination_by bytes => bytes.length
decreasing_by
  all_goals
    simp only [List.length_drop, List.length_cons]
    omega

/-- The bytes of a text. -/
def bytesOf (text : String) : List UInt8 :=
  text.toUTF8.toList

end SnippetCheck.Text
