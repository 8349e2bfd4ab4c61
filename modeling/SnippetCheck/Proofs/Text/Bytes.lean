import Mathlib.Data.String.Basic

/-!
# The Order Of Texts Is That Of Their Bytes

The bytes of a greater character are greater at the first place where they differ
(`encoding_lt_encoding`), so texts stand in the order of their bytes (`Text.lt_iff_bytes_lt`).
-/

namespace SnippetCheck.Text

variable {c d : Char}

/-- The bytes of a lesser character come first, whatever follows. -/
theorem encoding_lt_encoding (h : c < d) (s t : List UInt8) :
    String.utf8EncodeChar c ++ s < String.utf8EncodeChar d ++ t := by
  have hlt : c.val.toNat < d.val.toNat := h
  have hbound : d.val.toNat < 0x110000 := by
    have hvalid : d.val.toNat < 0xd800 ∨ 0xdfff < d.val.toNat ∧ d.val.toNat < 0x110000 := d.valid
    omega
  have hsecond (n : Nat) : n / 4096 = n / 64 / 64 := by omega
  have hthird (n : Nat) : n / 262144 = n / 64 / 64 / 64 := by omega
  -- one case for each pair of numbers of bytes
  unfold String.utf8EncodeChar
  dsimp only
  split_ifs <;>
    simp only [List.cons_append, List.nil_append, List.cons_lt_cons_iff, UInt8.lt_iff_toNat_lt,
      ← UInt8.toNat_inj, UInt8.toNat_ofNat', hsecond, hthird] <;>
    omega

/-- The bytes of a text are those of its characters. -/
theorem toList_toUTF8 (text : String) :
    text.toUTF8.data.toList = text.toList.flatMap String.utf8EncodeChar := by
  rw [String.toUTF8_eq_toByteArray, ← String.utf8Encode_toList, List.utf8Encode,
    List.toList_data_toByteArray]

/-- The bytes of a lesser text come first. -/
theorem bytes_lt_bytes {s t : List Char} (h : s < t) :
    s.flatMap String.utf8EncodeChar < t.flatMap String.utf8EncodeChar := by
  induction h with
  | nil =>
    rename_i c t
    rw [List.flatMap_nil, List.flatMap_cons]
    cases hbytes : String.utf8EncodeChar c with
    | nil => exact absurd hbytes String.utf8EncodeChar_ne_nil
    | cons byte bytes => exact List.Lex.nil
  | rel h => exact encoding_lt_encoding h _ _
  | cons _ ih => exact List.Lex.append_left _ ih _

/-- Texts stand in the order of their bytes. -/
theorem lt_iff_bytes_lt {s t : String} :
    s < t ↔ s.toUTF8.data.toList < t.toUTF8.data.toList := by
  rw [toList_toUTF8, toList_toUTF8]
  constructor
  · intro h
    exact bytes_lt_bytes (String.lt_iff_toList_lt.1 h)
  · intro h
    by_contra hle
    rcases lt_or_eq_of_le (String.not_lt.1 hle) with hlt | rfl
    · exact List.lt_asymm h (bytes_lt_bytes (String.lt_iff_toList_lt.1 hlt))
    · exact List.lt_irrefl _ h

end SnippetCheck.Text
