import SnippetCheck.Json.Reader

/-!
# JSON Strings Read Back

Every text is read back from the string that it is written as: `string?_writeText`.
-/

namespace SnippetCheck.Json

/-- The piece that a character is written as. -/
def pieceOf (c : Char) : Piece :=
  if c < ' ' ∧ c ∉ ['\x08', '\t', '\n', '\x0c', '\r'] then .unit c.toNat else .char c

/-- The number of a control character is read back from its four digits. -/
private theorem codeUnit?_of_lt :
    ∀ n < 0x20, codeUnit? '0' '0' (hexDigit (n / 16)) (hexDigit (n % 16)) = some n := by
  decide

/-- A character that stands for itself is a piece of its own. -/
private theorem pieces?_cons {c : Char} (hquote : c ≠ '"') (hback : c ≠ '\\') (hlow : ¬ c < ' ')
    (s : List Char) : pieces? (c :: s) = (pieces? s).map (prepend (.char c)) := by
  rw [pieces?]
  · simp [hback, hlow]
  all_goals simp [hquote, hback]

/-- A written character is read as its piece. -/
theorem pieces?_writeChar (c : Char) (s : List Char) :
    pieces? (writeChar c ++ s) = (pieces? s).map (prepend (pieceOf c)) := by
  by_cases hescaped : c ∈ ['"', '\\', '\x08', '\t', '\n', '\x0c', '\r']
  · simp only [List.mem_cons, List.not_mem_nil, or_false] at hescaped
    rcases hescaped with rfl | rfl | rfl | rfl | rfl | rfl | rfl <;> rfl
  · simp only [List.mem_cons, List.not_mem_nil, or_false, not_or] at hescaped
    obtain ⟨hquote, hback, hothers⟩ := hescaped
    by_cases hlow : c < ' '
    · have hpiece : pieceOf c = .unit c.toNat := by simp [pieceOf, hlow, hothers]
      simp [writeChar, hquote, hback, hothers, hlow, pieces?, codeUnit?_of_lt c.toNat hlow, hpiece]
    · have hpiece : pieceOf c = .char c := by simp [pieceOf, hlow]
      simp [writeChar, hquote, hback, hothers, hlow, pieces?_cons, hpiece]

/-- The pieces of a written text are those of its characters. -/
theorem pieces?_flatMap_writeChar (s rest : List Char) :
    pieces? (s.flatMap writeChar ++ '"' :: rest) = some (s.map pieceOf, rest) := by
  induction s with
  | nil => simp [pieces?]
  | cons c s ih =>
    rw [List.flatMap_cons, List.append_assoc, pieces?_writeChar, ih]
    rfl

/-- A code unit below the surrogates is a character by itself. -/
private theorem content?_unit {n : Nat} (h : n < 0xd800) (pieces : List Piece) :
    content? (.unit n :: pieces) = (content? pieces).map (Char.ofNat n :: ·) := by
  have hleading : isLeading n = false := by simp [isLeading]; omega
  have htrailing : isTrailing n = false := by simp [isTrailing]; omega
  rcases pieces with _ | ⟨_ | _, pieces⟩ <;> simp [content?, hleading, htrailing]

/-- The pieces of characters make up the text of these characters. -/
theorem content?_map_pieceOf (s : List Char) : content? (s.map pieceOf) = some s := by
  induction s with
  | nil => rfl
  | cons c s ih =>
    rw [List.map_cons, pieceOf]
    split
    next h =>
      have hlow : c.toNat < 0xd800 := Nat.lt_trans h.1 (by decide)
      rw [content?_unit hlow, ih, Option.map_some, Char.ofNat_toNat]
    next => rw [content?, ih, Option.map_some]

/-- A text is read back from the string that it is written as. -/
theorem string?_writeText (s : String) (rest : List Char) :
    string? ((writeText s.toList).tail ++ rest) = some (some s, rest) := by
  rw [writeText, List.tail_cons, List.append_assoc, List.singleton_append, string?,
    pieces?_flatMap_writeChar]
  simp [content?_map_pieceOf]

end SnippetCheck.Json
