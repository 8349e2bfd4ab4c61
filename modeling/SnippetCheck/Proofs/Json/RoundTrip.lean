import Mathlib.Data.List.Forall2
import SnippetCheck.Json.Writer
import SnippetCheck.Proofs.Json.Text

/-!
# JSON Documents Read Back

`Spells value s` says that `s` writes out `value`, with blanks wherever the writer may put
some. What is spelled is read back (`Spells.value?_append`), and both forms of a document spell
their value, so that `ofText?_compactText` and `ofText?_prettyText` give it back.

Numbers are read back when they are natural and strings when they are texts; a value of which
that is true throughout is plain (`Value.isPlain`).
-/

namespace SnippetCheck.Json

open SnippetCheck.Text
open SnippetCheck.Document (after?)

/-! ## Blanks and delimiters -/

/-- Nothing but characters that may stand between the parts of a document. -/
def IsBlank (s : List Char) : Prop :=
  ∀ c ∈ s, isSpace c = true

/-- What may follow a value. -/
def Delimits (rest : List Char) : Prop :=
  ∀ c ∈ rest.head?, isSpace c = true ∨ c ∈ [',', ']', '}']

/-- Nothing is blank. -/
theorem isBlank_nil : IsBlank [] := by
  simp [IsBlank]

/-- A line feed is blank. -/
theorem isBlank_lineFeed : IsBlank ['\n'] := by
  simp [IsBlank, isSpace]

/-- Leading blanks are skipped. -/
theorem skipSpace_append {blank : List Char} (h : IsBlank blank) (s : List Char) :
    skipSpace (blank ++ s) = skipSpace s :=
  List.dropWhile_append_of_pos h

/-- Nothing is skipped in front of other characters. -/
theorem skipSpace_cons {c : Char} (h : isSpace c = false) (s : List Char) :
    skipSpace (c :: s) = c :: s :=
  List.dropWhile_cons_of_neg (by simp [h])

/-- Blanks delimit. -/
theorem IsBlank.delimits {blank rest : List Char} (h : IsBlank blank) (hrest : Delimits rest) :
    Delimits (blank ++ rest) := by
  cases blank with
  | nil => exact hrest
  | cons c blank =>
    intro other hother
    cases hother
    exact .inl (h c List.mem_cons_self)

/-- A delimiter is no digit, and begins neither a fraction nor an exponent. -/
private theorem Delimits.head?_ne {rest : List Char} (h : Delimits rest) {c : Char}
    (hc : c ∈ rest.head?) : c.isDigit = false ∧ c ≠ '.' ∧ c ≠ 'e' ∧ c ≠ 'E' := by
  rcases h c hc with hspace | hmem
  · simp only [isSpace, Bool.or_eq_true, decide_eq_true_eq] at hspace
    rcases hspace with ((rfl | rfl) | rfl) | rfl <;> decide
  · simp only [List.mem_cons, List.not_mem_nil, or_false] at hmem
    rcases hmem with rfl | rfl | rfl <;> decide

/-! ## Numbers -/

/-- Decimal numerals are made of digits. -/
private theorem isDigit_of_mem_decimal {n : Nat} {c : Char} (h : c ∈ decimal n) :
    c.isDigit = true :=
  Nat.isDigit_of_mem_toDigits (by decide) (by decide) h

/-- What follows a numeral does not change its first digit. -/
private theorem head?_decimal_append (n : Nat) (s : List Char) :
    (decimal n ++ s).head? = (decimal n).head? := by
  obtain ⟨c, digits, h⟩ := List.exists_cons_of_ne_nil (Nat.toDigits_ne_nil (b := 10) (n := n))
  rw [decimal, h]
  rfl

/-- The only digit that is written as a zero is zero. -/
private theorem eq_zero_of_digitChar : ∀ n < 10, Nat.digitChar n = '0' → n = 0 := by
  decide

/-- A numeral begins with a digit. -/
private theorem exists_decimal_eq_cons (n : Nat) :
    ∃ c digits, decimal n = c :: digits ∧ c.isDigit = true := by
  obtain ⟨c, digits, h⟩ := List.exists_cons_of_ne_nil (Nat.toDigits_ne_nil (n := n) (b := 10))
  have hmem : c ∈ decimal n := by
    rw [decimal, h]
    exact List.mem_cons_self
  exact ⟨c, digits, h, isDigit_of_mem_decimal hmem⟩

/-- A digit is no blank. -/
private theorem isSpace_of_isDigit {c : Char} (h : c.isDigit = true) : isSpace c = false := by
  rw [Bool.eq_false_iff]
  intro hspace
  simp only [isSpace, Bool.or_eq_true, decide_eq_true_eq] at hspace
  rcases hspace with ((rfl | rfl) | rfl) | rfl <;> exact absurd h (by decide)

/-- Only zero is written with a zero in front. -/
private theorem eq_zero_of_head?_decimal (n : Nat) (h : (decimal n).head? = some '0') : n = 0 := by
  induction n using Nat.strongRecOn with
  | _ n ih =>
    rw [decimal, Nat.toDigits_eq_if (by decide)] at h
    split at h
    next hlt => exact eq_zero_of_digitChar n hlt (by simpa using h)
    next hle =>
      rw [← decimal, head?_decimal_append] at h
      have hzero := ih (n / 10) (by omega) h
      omega

/-- The digits of a numeral denote its number. -/
private theorem ofDigits_decimal (n : Nat) : ofDigits (decimal n) = n :=
  Nat.ofDigitChars_ten_toDigits

/-- Digits end where a delimiter stands. -/
private theorem takeWhile_isDigit_append {digits rest : List Char}
    (hdigits : ∀ c ∈ digits, c.isDigit = true) (hrest : Delimits rest) :
    (digits ++ rest).takeWhile Char.isDigit = digits ∧
      (digits ++ rest).dropWhile Char.isDigit = rest := by
  rw [List.takeWhile_append_of_pos hdigits, List.dropWhile_append_of_pos hdigits]
  cases rest with
  | nil => simp
  | cons c rest =>
    have hc := (hrest.head?_ne (c := c) rfl).1
    simp [hc]

/-- A delimiter is neither a fraction nor an exponent. -/
private theorem afterTail?_of_delimits {rest : List Char} (h : Delimits rest) :
    afterTail? rest = some (false, rest) := by
  cases rest with
  | nil => rfl
  | cons c rest =>
    obtain ⟨-, hdot, he, hE⟩ := h.head?_ne (c := c) rfl
    unfold afterTail?
    split
    next heq => exact absurd (List.cons.inj heq).1 hdot
    next =>
      simp only [Option.bind_eq_bind, Option.bind_some]
      split
      next heq => exact absurd (List.cons.inj heq).1 he
      next heq => exact absurd (List.cons.inj heq).1 hE
      next => rfl

/-- A natural number is read back from its numeral. -/
theorem number?_decimal (n : Nat) {rest : List Char} (hrest : Delimits rest) :
    number? (decimal n ++ rest) = some (some n, rest) := by
  have hdigits : ∀ c ∈ decimal n, c.isDigit = true := fun c hc => isDigit_of_mem_decimal hc
  obtain ⟨htake, hdrop⟩ := takeWhile_isDigit_append hdigits hrest
  have hsign : (decimal n ++ rest).head? ≠ some '-' := by
    rw [head?_decimal_append]
    intro h
    exact absurd (isDigit_of_mem_decimal (List.mem_of_head? h)) (by decide)
  have hzero : ¬ ((decimal n).head? = some '0' ∧ 1 < (decimal n).length) := by
    rintro ⟨hhead, hlength⟩
    rw [eq_zero_of_head?_decimal n hhead] at hlength
    exact absurd hlength (by decide)
  simp only [number?, hsign, decide_false, if_false, htake, hdrop]
  split
  next hnil => exact absurd hnil Nat.toDigits_ne_nil
  next =>
    simp only [Bool.and_eq_true, decide_eq_true_eq, hzero, if_false,
      afterTail?_of_delimits hrest, Option.map_some, Bool.or_false, ofDigits_decimal]
    rfl

/-! ## Spellings -/

/-- What stands in front of an item or member: a comma, unless it is the first. -/
def comma (first : Bool) : List Char :=
  if first then [] else [',']

mutual

/-- A text writes out a value. -/
inductive Spells : Value → List Char → Prop
  | null : Spells .null "null".toList
  | bool (value : Bool) : Spells (.bool value) (writeBool value)
  | number (n : Nat) : Spells (.number (some n)) (decimal n)
  | text (content : String) : Spells (.text (some content)) (writeText content.toList)
  | array {items : List Value} {s : List Char} (hitems : SpellsItems true items s) :
    Spells (.array items) ('[' :: s)
  | object {members : List (Option String × Value)} {s : List Char}
    (hmembers : SpellsMembers true members s) : Spells (.object members) ('{' :: s)

/-- A text writes out the items of an array, up to its closing bracket. -/
inductive SpellsItems : Bool → List Value → List Char → Prop
  | nil (first : Bool) {blank : List Char} (hblank : IsBlank blank) :
    SpellsItems first [] (blank ++ [']'])
  | cons (first : Bool) {blank s t : List Char} {item : Value} {items : List Value}
    (hblank : IsBlank blank) (hitem : Spells item s) (hitems : SpellsItems false items t) :
    SpellsItems first (item :: items) (comma first ++ (blank ++ (s ++ t)))

/-- A text writes out the members of an object, up to its closing brace. -/
inductive SpellsMembers : Bool → List (Option String × Value) → List Char → Prop
  | nil (first : Bool) {blank : List Char} (hblank : IsBlank blank) :
    SpellsMembers first [] (blank ++ ['}'])
  | cons (first : Bool) {blank gap s t : List Char} (key : String) {value : Value}
    {members : List (Option String × Value)} (hblank : IsBlank blank) (hgap : IsBlank gap)
    (hvalue : Spells value s) (hmembers : SpellsMembers false members t) :
    SpellsMembers first ((some key, value) :: members)
      (comma first ++ (blank ++ (writeText key.toList ++ ':' :: (gap ++ (s ++ t)))))

end

/-- A value is spelled with a character that is neither blank nor a closing bracket first. -/
theorem Spells.exists_cons {value : Value} {s : List Char} (h : Spells value s) :
    ∃ c t, s = c :: t ∧ isSpace c = false ∧ c ≠ ']' := by
  cases h with
  | null => exact ⟨'n', _, rfl, by decide, by decide⟩
  | bool value =>
    cases value with
    | false => exact ⟨'f', _, rfl, by decide, by decide⟩
    | true => exact ⟨'t', _, rfl, by decide, by decide⟩
  | number n =>
    obtain ⟨c, digits, heq, hdigit⟩ := exists_decimal_eq_cons n
    refine ⟨c, digits, heq, isSpace_of_isDigit hdigit, ?_⟩
    rintro rfl
    exact absurd hdigit (by decide)
  | text content => exact ⟨'"', _, rfl, by decide, by decide⟩
  | array hitems => exact ⟨'[', _, rfl, by decide, by decide⟩
  | object hmembers => exact ⟨'{', _, rfl, by decide, by decide⟩

/-- A value is spelled with one character at least. -/
theorem Spells.length_pos {value : Value} {s : List Char} (h : Spells value s) : 0 < s.length := by
  obtain ⟨c, t, rfl, -⟩ := h.exists_cons
  exact Nat.succ_pos _

/-- Items are spelled with one character at least. -/
theorem SpellsItems.length_pos {first : Bool} {items : List Value} {s : List Char}
    (h : SpellsItems first items s) : 0 < s.length := by
  cases h with
  | nil => simp
  | cons _ _ hitem =>
    have hpos := hitem.length_pos
    simp only [List.length_append]
    omega

/-- The items after the first delimit it. -/
theorem SpellsItems.delimits {items : List Value} {t : List Char}
    (h : SpellsItems false items t) (rest : List Char) : Delimits (t ++ rest) := by
  cases h with
  | nil _ hblank =>
    rw [List.append_assoc]
    refine hblank.delimits ?_
    intro c hc
    cases hc
    exact .inr (by decide)
  | cons =>
    intro c hc
    cases hc
    exact .inr (by decide)

/-- The members after the first delimit its value. -/
theorem SpellsMembers.delimits {members : List (Option String × Value)} {t : List Char}
    (h : SpellsMembers false members t) (rest : List Char) : Delimits (t ++ rest) := by
  cases h with
  | nil _ hblank =>
    rw [List.append_assoc]
    refine hblank.delimits ?_
    intro c hc
    cases hc
    exact .inr (by decide)
  | cons =>
    intro c hc
    cases hc
    exact .inr (by decide)

/-! ## Reading spellings -/

/-- Blanks in front of a value are skipped. -/
theorem value?_append {blank : List Char} (h : IsBlank blank) (n : Nat) (s : List Char) :
    value? n (blank ++ s) = value? n s := by
  cases n with
  | zero => simp [value?]
  | succ n => rw [value?, value?, skipSpace_append h]

/-- What is cut off is found in front. -/
private theorem after?_append (lead s : List Char) : after? lead (lead ++ s) = some s := by
  simp [after?]

/-- A numeral is read as its number. -/
private theorem value?_decimal (n k : Nat) {rest : List Char} (hrest : Delimits rest) :
    value? (n + 1) (decimal k ++ rest) = some (.number (some k), rest) := by
  have hnumber := number?_decimal k hrest
  obtain ⟨c, digits, heq, hdigit⟩ := exists_decimal_eq_cons k
  rw [heq, List.cons_append] at hnumber ⊢
  rw [value?, skipSpace_cons (isSpace_of_isDigit hdigit)]
  -- none of the characters that begin other values is a digit
  split
  case h_7 => rw [hnumber, Option.map_some]
  all_goals
    next h => exact absurd ((List.cons.inj h).1 ▸ hdigit) (by decide)

/-- A string is read as its text. -/
private theorem value?_writeText (n : Nat) (content : String) (rest : List Char) :
    value? (n + 1) (writeText content.toList ++ rest) = some (.text (some content), rest) := by
  have hstring := string?_writeText content rest
  obtain ⟨written, hwritten⟩ : ∃ written, writeText content.toList = '"' :: written := ⟨_, rfl⟩
  rw [hwritten, List.tail_cons] at hstring
  rw [hwritten, List.cons_append, value?, skipSpace_cons (by decide)]
  simp only [hstring, Option.map_some]

/-- An item that is read and items that are read after it are read together. -/
private theorem items?_cons {n : Nat} {first : Bool} {blank s t rest : List Char} {item : Value}
    {items : List Value} (hblank : IsBlank blank) (hspells : Spells item s)
    (hitem : value? n (s ++ t) = some (item, t)) (hitems : items? n false t = some (items, rest)) :
    items? (n + 1) first (comma first ++ (blank ++ (s ++ t))) = some (item :: items, rest) := by
  -- a first item follows directly, another one after a comma
  cases first with
  | true =>
    obtain ⟨c, s', rfl, hspace, hclose⟩ := hspells.exists_cons
    have hskip : skipSpace (comma true ++ (blank ++ (c :: s' ++ t))) = c :: s' ++ t := by
      rw [comma, if_pos rfl, List.nil_append, skipSpace_append hblank]
      exact skipSpace_cons hspace _
    rw [items?, hskip]
    split
    next heq => exact absurd (List.cons.inj heq).1 hclose
    next => simp only [if_true, Option.bind_some, hitem, hitems, Option.map_some]
  | false =>
    have hskip : skipSpace (comma false ++ (blank ++ (s ++ t))) = ',' :: (blank ++ (s ++ t)) :=
      skipSpace_cons (by decide) _
    have hcomma := after?_append [','] (blank ++ (s ++ t))
    rw [List.singleton_append] at hcomma
    rw [items?, hskip]
    simp [hcomma, value?_append hblank, hitem, hitems]

/-- A member that is read and members that are read after it are read together. -/
private theorem members?_cons {n : Nat} {first : Bool} {blank gap s t rest : List Char}
    {key : String} {value : Value} {members : List (Option String × Value)}
    (hblank : IsBlank blank) (hgap : IsBlank gap) (hvalue : value? n (s ++ t) = some (value, t))
    (hmembers : members? n false t = some (members, rest)) :
    members? (n + 1) first
        (comma first ++ (blank ++ (writeText key.toList ++ ':' :: (gap ++ (s ++ t))))) =
      some ((some key, value) :: members, rest) := by
  obtain ⟨written, hwritten⟩ : ∃ written, writeText key.toList = '"' :: written := ⟨_, rfl⟩
  have hkey (u : List Char) : string? (written ++ u) = some (some key, u) := by
    have hread := string?_writeText key u
    rwa [hwritten, List.tail_cons] at hread
  have hskip (u : List Char) : skipSpace (blank ++ '"' :: u) = '"' :: u := by
    rw [skipSpace_append hblank]
    exact skipSpace_cons (by decide) u
  have hquote (u : List Char) : after? ['"'] ('"' :: u) = some u := after?_append ['"'] u
  have hcolon (u : List Char) : after? [':'] (skipSpace (':' :: u)) = some u := by
    rw [skipSpace_cons (by decide)]
    exact after?_append [':'] u
  -- a first member follows directly, another one after a comma
  rw [hwritten, List.cons_append]
  cases first with
  | true =>
    rw [comma, if_pos rfl, List.nil_append, members?, hskip]
    have hagain : skipSpace ('"' :: (written ++ ':' :: (gap ++ (s ++ t)))) = '"' :: _ :=
      skipSpace_cons (by decide) _
    simp [hagain, hquote, hkey, hcolon, value?_append hgap, hvalue, hmembers]
  | false =>
    have hcomma (u : List Char) : after? [','] (',' :: u) = some u := after?_append [','] u
    have hfirst (u : List Char) : skipSpace (comma false ++ u) = ',' :: u :=
      skipSpace_cons (by decide) u
    rw [members?, hfirst]
    simp [hcomma, hskip, hquote, hkey, hcolon, value?_append hgap, hvalue, hmembers]

/-- Whatever a text spells is read from its front, with a bound that the length of the text
suffices for. -/
private theorem reads_spelled (n : Nat) :
    (∀ {value : Value} {s : List Char}, Spells value s → s.length ≤ n →
      ∀ rest, Delimits rest → value? n (s ++ rest) = some (value, rest)) ∧
    (∀ {first : Bool} {items : List Value} {s : List Char}, SpellsItems first items s →
      s.length ≤ n → ∀ rest, items? n first (s ++ rest) = some (items, rest)) ∧
    (∀ {first : Bool} {members : List (Option String × Value)} {s : List Char},
      SpellsMembers first members s → s.length ≤ n →
      ∀ rest, members? n first (s ++ rest) = some (members, rest)) := by
  -- the induction is on the bound: each part of a spelling is shorter than the whole
  induction n with
  | zero =>
    refine ⟨fun h hlength => ?_, fun h hlength => ?_, fun h hlength => ?_⟩
    · exact absurd h.length_pos (Nat.not_lt.2 hlength)
    · exact absurd h.length_pos (Nat.not_lt.2 hlength)
    · cases h with
      | nil => simp at hlength
      | cons => simp at hlength
  | succ n ih =>
    obtain ⟨readsValue, readsItems, readsMembers⟩ := ih
    refine ⟨fun h hlength rest hrest => ?_, fun h hlength rest => ?_, fun h hlength rest => ?_⟩
    · cases h with
      | null => rfl
      | bool value => cases value <;> rfl
      | number k => exact value?_decimal n k hrest
      | text content => exact value?_writeText n content rest
      | array hitems =>
        have hread := readsItems hitems (Nat.le_of_succ_le_succ hlength) rest
        rw [List.cons_append, value?, skipSpace_cons (by decide)]
        simp only [hread, Option.map_some]
      | object hmembers =>
        have hread := readsMembers hmembers (Nat.le_of_succ_le_succ hlength) rest
        rw [List.cons_append, value?, skipSpace_cons (by decide)]
        simp only [hread, Option.map_some]
    · cases h with
      | nil _ hblank =>
        rw [List.append_assoc, List.singleton_append, items?, skipSpace_append hblank,
          skipSpace_cons (by decide)]
        rfl
      | cons first hblank hitem hitems =>
        have hitemPos := hitem.length_pos
        have hitemsPos := hitems.length_pos
        simp only [List.length_append] at hlength
        have hread := readsValue hitem (by omega) _ (hitems.delimits rest)
        have hreads := readsItems hitems (by omega) rest
        simpa only [List.append_assoc] using items?_cons hblank hitem hread hreads
    · cases h with
      | nil _ hblank =>
        rw [List.append_assoc, List.singleton_append, members?, skipSpace_append hblank,
          skipSpace_cons (by decide)]
        rfl
      | cons first key hblank hgap hvalue hmembers =>
        simp only [List.length_append, List.length_cons] at hlength
        have hread := readsValue hvalue (by omega) _ (hmembers.delimits rest)
        have hreads := readsMembers hmembers (by omega) rest
        simpa only [List.append_assoc, List.cons_append] using
          members?_cons hblank hgap hread hreads

/-- A spelled value is read back, whatever delimiter follows it. -/
theorem Spells.value?_append {value : Value} {s : List Char} (h : Spells value s) {n : Nat}
    (hlength : s.length ≤ n) {rest : List Char} (hrest : Delimits rest) :
    value? n (s ++ rest) = some (value, rest) :=
  (reads_spelled n).1 h hlength rest hrest

/-- A document holds the value that it spells, also with blanks after it. -/
theorem Spells.ofText?_eq {value : Value} {s blank : List Char} (h : Spells value s)
    (hblank : IsBlank blank) : ofText? (String.ofList (s ++ blank)) = some value := by
  have hnil : Delimits [] := by simp [Delimits]
  have hrest : Delimits blank := by simpa using hblank.delimits hnil
  have hskip : skipSpace blank = [] := by
    rw [← List.append_nil blank, skipSpace_append hblank]
    rfl
  have hread := h.value?_append (n := 2 * (s ++ blank).length + 2)
    (by simp only [List.length_append]; omega) hrest
  simp only [ofText?, String.toList_ofList, hread, hskip, List.isEmpty_nil, if_true]

/-! ## What the writer spells -/

/-- Parts with a separator between neighbours, as the first part and what follows it. -/
theorem separated_cons (separator part : List Char) (parts : List (List Char)) :
    separated separator (part :: parts) = part ++ parts.flatMap (separator ++ ·) := by
  induction parts generalizing part with
  | nil => simp [separated]
  | cons next parts ih => simp [separated, ih]

/-- A text writes out a member of an object, with blanks in front of the value. -/
def SpellsMember (gap : List Char) (member : Option String × Value) (s : List Char) : Prop :=
  ∃ key t, member.1 = some key ∧ Spells member.2 t ∧ s = writeText key.toList ++ ':' :: (gap ++ t)

/-- Items after the first are spelled with a comma and blanks in front of each. -/
private theorem spellsItems_flatMap {blank close : List Char} (hblank : IsBlank blank)
    (hclose : IsBlank close) {items : List Value} {texts : List (List Char)}
    (h : List.Forall₂ Spells items texts) :
    SpellsItems false items (texts.flatMap ((',' :: blank) ++ ·) ++ (close ++ [']'])) := by
  induction h with
  | nil => exact .nil false hclose
  | cons hitem _ ih =>
    simpa [comma] using SpellsItems.cons false hblank hitem ih

/-- Members after the first are spelled with a comma and blanks in front of each. -/
private theorem spellsMembers_flatMap {blank gap close : List Char} (hblank : IsBlank blank)
    (hgap : IsBlank gap) (hclose : IsBlank close) {members : List (Option String × Value)}
    {texts : List (List Char)} (h : List.Forall₂ (SpellsMember gap) members texts) :
    SpellsMembers false members
      (texts.flatMap ((',' :: blank) ++ ·) ++ (close ++ ['\x7d'])) := by
  induction h with
  | nil => exact .nil false hclose
  | @cons member text _ _ hmember _ ih =>
    obtain ⟨key, value⟩ := member
    obtain ⟨key, t, rfl, hvalue, rfl⟩ := hmember
    simpa [comma] using SpellsMembers.cons false key hblank hgap hvalue ih

/-- An array is spelled by its separated items in brackets, with blanks around and between. -/
theorem spells_array {blank close : List Char} (hblank : IsBlank blank) (hclose : IsBlank close)
    {items : List Value} {texts : List (List Char)} (h : List.Forall₂ Spells items texts) :
    Spells (.array items)
      ('[' :: (blank ++ separated (',' :: blank) texts ++ (close ++ [']']))) := by
  refine .array ?_
  cases h with
  | nil =>
    have hboth : IsBlank (blank ++ close) := fun c hc =>
      (List.mem_append.1 hc).elim (hblank c) (hclose c)
    simpa [separated] using SpellsItems.nil true hboth
  | cons hitem hitems =>
    rw [separated_cons]
    simpa [comma] using
      SpellsItems.cons true hblank hitem (spellsItems_flatMap hblank hclose hitems)

/-- An object is spelled by its separated members in braces, with blanks around and between. -/
theorem spells_object {blank gap close : List Char} (hblank : IsBlank blank) (hgap : IsBlank gap)
    (hclose : IsBlank close) {members : List (Option String × Value)} {texts : List (List Char)}
    (h : List.Forall₂ (SpellsMember gap) members texts) :
    Spells (.object members)
      ('\x7b' :: (blank ++ separated (',' :: blank) texts ++ (close ++ ['\x7d']))) := by
  refine .object ?_
  cases h with
  | nil =>
    have hboth : IsBlank (blank ++ close) := fun c hc =>
      (List.mem_append.1 hc).elim (hblank c) (hclose c)
    simpa [separated] using SpellsMembers.nil true hboth
  | @cons member text _ _ hmember hmembers =>
    obtain ⟨key, value⟩ := member
    obtain ⟨key, t, rfl, hvalue, rfl⟩ := hmember
    rw [separated_cons]
    simpa [comma] using SpellsMembers.cons true key hblank hgap hvalue
      (spellsMembers_flatMap hblank hgap hclose hmembers)

mutual

/-- Whether every number of a value is natural, and every string a text. -/
def Value.isPlain : Value → Bool
  | .null => true
  | .bool _ => true
  | .number natural => natural.isSome
  | .text content => content.isSome
  | .array items => arePlain items
  | .object members => arePlainMembers members

/-- Whether all items are plain. -/
def arePlain : List Value → Bool
  | [] => true
  | item :: items => item.isPlain && arePlain items

/-- Whether all members have a text for their key and a plain value. -/
def arePlainMembers : List (Option String × Value) → Bool
  | [] => true
  | (key, value) :: members => key.isSome && value.isPlain && arePlainMembers members

end

/-- All items are plain if each one is. -/
@[simp]
theorem arePlain_eq_all (items : List Value) : arePlain items = items.all Value.isPlain := by
  induction items with
  | nil => rfl
  | cons item items ih => rw [arePlain, ih, List.all_cons]

/-- All members are plain if each one is. -/
@[simp]
theorem arePlainMembers_eq_all (members : List (Option String × Value)) :
    arePlainMembers members = members.all fun member => member.1.isSome && member.2.isPlain := by
  induction members with
  | nil => rfl
  | cons member members ih => rw [arePlainMembers, ih, List.all_cons]

mutual

/-- The one-line form of a plain value spells it. -/
theorem spells_compact : (value : Value) → value.isPlain = true → Spells value (compact value)
  | .null, _ => .null
  | .bool value, _ => .bool value
  | .number (some n), _ => .number n
  | .text (some content), _ => .text content
  | .array items, h => by
    rw [Value.isPlain] at h
    exact spells_array isBlank_nil isBlank_nil (forall₂_compactItems items h)
  | .object members, h => by
    rw [Value.isPlain] at h
    exact spells_object isBlank_nil isBlank_nil isBlank_nil (forall₂_compactMembers members h)

/-- The one-line forms of plain items spell them. -/
theorem forall₂_compactItems : (items : List Value) → arePlain items = true →
    List.Forall₂ Spells items (compactItems items)
  | [], _ => .nil
  | item :: items, h => by
    rw [arePlain, Bool.and_eq_true] at h
    exact .cons (spells_compact item h.1) (forall₂_compactItems items h.2)

/-- The one-line forms of plain members spell them. -/
theorem forall₂_compactMembers : (members : List (Option String × Value)) →
    arePlainMembers members = true →
    List.Forall₂ (SpellsMember []) members (compactMembers members)
  | [], _ => .nil
  | (some key, value) :: members, h => by
    rw [arePlainMembers, Bool.and_eq_true, Bool.and_eq_true] at h
    exact .cons ⟨key, _, rfl, spells_compact value h.1.2, rfl⟩
      (forall₂_compactMembers members h.2)

end

/-- A line end and the spaces after it are blank. -/
theorem isBlank_newline (depth : Nat) : IsBlank (newline depth) := by
  intro c hc
  rcases List.mem_cons.1 hc with rfl | hspace
  · decide
  · rw [(List.mem_replicate.1 hspace).2]
    decide

mutual

/-- The form of a plain value in several lines spells it, at every depth. -/
theorem spells_pretty (depth : Nat) :
    (value : Value) → value.isPlain = true → Spells value (pretty depth value)
  | .null, _ => .null
  | .bool value, _ => .bool value
  | .number (some n), _ => .number n
  | .text (some content), _ => .text content
  | .array [], _ => .array (.nil true isBlank_nil)
  | .array (item :: items), h => by
    rw [Value.isPlain] at h
    have hspells := spells_array (isBlank_newline (depth + 1)) (isBlank_newline depth)
      (forall₂_prettyItems (depth + 1) (item :: items) h)
    simpa [pretty] using hspells
  | .object [], _ => .object (.nil true isBlank_nil)
  | .object (member :: members), h => by
    rw [Value.isPlain] at h
    have hgap : IsBlank [' '] := by simp [IsBlank, isSpace]
    have hspells := spells_object (isBlank_newline (depth + 1)) hgap (isBlank_newline depth)
      (forall₂_prettyMembers (depth + 1) (member :: members) h)
    simpa [pretty] using hspells

/-- The forms of plain items in several lines spell them. -/
theorem forall₂_prettyItems (depth : Nat) : (items : List Value) → arePlain items = true →
    List.Forall₂ Spells items (prettyItems depth items)
  | [], _ => .nil
  | item :: items, h => by
    rw [arePlain, Bool.and_eq_true] at h
    exact .cons (spells_pretty depth item h.1) (forall₂_prettyItems depth items h.2)

/-- The forms of plain members in several lines spell them. -/
theorem forall₂_prettyMembers (depth : Nat) : (members : List (Option String × Value)) →
    arePlainMembers members = true →
    List.Forall₂ (SpellsMember [' ']) members (prettyMembers depth members)
  | [], _ => .nil
  | (some key, value) :: members, h => by
    rw [arePlainMembers, Bool.and_eq_true, Bool.and_eq_true] at h
    exact .cons ⟨key, _, rfl, spells_pretty depth value h.1.2, rfl⟩
      (forall₂_prettyMembers depth members h.2)

end

/-- A plain value is read back from its one-line form, also with blanks after it. -/
theorem ofText?_compactText {value : Value} (h : value.isPlain = true) {blank : List Char}
    (hblank : IsBlank blank) :
    ofText? (compactText value ++ String.ofList blank) = some value := by
  rw [compactText, ← String.ofList_append]
  exact (spells_compact value h).ofText?_eq hblank

/-- A plain value is read back from its form in several lines, also with blanks after it. -/
theorem ofText?_prettyText {value : Value} (h : value.isPlain = true) {blank : List Char}
    (hblank : IsBlank blank) :
    ofText? (prettyText value ++ String.ofList blank) = some value := by
  rw [prettyText, ← String.ofList_append]
  exact (spells_pretty 0 value h).ofText?_eq hblank

end SnippetCheck.Json
