import SnippetCheck.Proofs.Document
import SnippetCheck.Proofs.Source.Visibility
import SnippetCheck.Proofs.Text.Returns
import SnippetCheck.Source.Relocation
import SnippetCheck.Source.Imports

/-!
# Reading Sources With Carriage Returns

What is read from a text and from the same text with carriage returns at line ends is the same but
for such returns again: the contents of the blocks of a document (`contents_of_returns`), the body
of a snippet without imports (`lineReturns_bodyLines`), the declarations that are lifted out of it
(`relocate_of_lineReturns`), and the rest without the modifiers of local types
(`stripVisibility_of_returns`). A reader takes a part of the text and leaves a rest; from the two
texts it takes parts that lead on alike (`Taken`), since a return is only one more blank to it and
no word that it looks for reaches over a line end (`Unbroken`).
-/

namespace SnippetCheck

open Text

/-! ## Options that are related -/

section Options

variable {α β γ δ : Type} {related : α → β → Prop} {after : γ → δ → Prop}
  {found : Option α} {other : Option β}

/-- What goes on alike from related results has related results. -/
theorem rel_bind {next : α → Option γ} {nextOther : β → Option δ}
    (h : Option.Rel related found other)
    (hnext : ∀ a b, found = some a → other = some b → related a b →
      Option.Rel after (next a) (nextOther b)) :
    Option.Rel after (found.bind next) (other.bind nextOther) := by
  cases h with
  | none => exact .none
  | some h => exact hnext _ _ rfl rfl h

/-- Related results are related after they are changed alike. -/
private theorem rel_map {change : α → γ} {changeOther : β → δ}
    (h : Option.Rel related found other)
    (hchange : ∀ a b, related a b → after (change a) (changeOther b)) :
    Option.Rel after (found.map change) (other.map changeOther) := by
  cases h with
  | none => exact .none
  | some h => exact .some (hchange _ _ h)

/-- The first of two results and another one, each related to its counterpart, are related. -/
private theorem rel_orElse {later : Option α} {laterOther : Option β}
    (h : Option.Rel related found other) (hlater : Option.Rel related later laterOther) :
    Option.Rel related (found.orElse fun () => later) (other.orElse fun () => laterOther) := by
  cases h with
  | none => exact hlater
  | some h => exact .some h

/-- Related results are kept alike. -/
theorem rel_filter {keep : α → Bool} {keepOther : β → Bool}
    (h : Option.Rel related found other)
    (hkeep : ∀ a b, related a b → keepOther b = keep a) :
    Option.Rel related (found.filter keep) (other.filter keepOther) := by
  cases h with
  | none => exact .none
  | @some a b h =>
    rw [Option.filter_some, Option.filter_some, hkeep a b h]
    split
    · exact .some h
    · exact .none

/-- There is a result where there is a related one. -/
theorem isSome_eq_of_rel (h : Option.Rel related found other) :
    other.isSome = found.isSome := by
  cases h <;> rfl

/-- A result has a related one. -/
private theorem exists_of_rel {a : α} (h : Option.Rel related found other)
    (hfound : found = some a) : ∃ b, other = some b ∧ related a b := by
  cases h with
  | none => cases hfound
  | some h =>
    cases hfound
    exact ⟨_, rfl, h⟩

/-- Where there is no result, there is no related one. -/
private theorem eq_none_of_rel (h : Option.Rel related found other) (hfound : found = none) :
    other = none := by
  cases h with
  | none => rfl
  | some => cases hfound

end Options

/-- Two readers have taken the same of two texts, but for carriage returns at line ends, and leave
the same. -/
structure Taken (read other : List Char × List Char) : Prop where
  /-- What is taken leads on alike. -/
  taken : Leads read.1 other.1
  /-- What is left is the same but for returns. -/
  rest : Returns read.2 other.2

/-- A word that reaches over no line end. -/
structure Unbroken (word : List Char) : Prop where
  /-- The word is not empty. -/
  ne_nil : word ≠ []
  /-- No carriage return. -/
  no_return : '\r' ∉ word
  /-- No line feed. -/
  no_feed : '\n' ∉ word

instance (word : List Char) : Decidable (Unbroken word) :=
  decidable_of_iff (word ≠ [] ∧ '\r' ∉ word ∧ '\n' ∉ word)
    ⟨fun ⟨hnil, hreturn, hfeed⟩ => ⟨hnil, hreturn, hfeed⟩,
      fun ⟨hnil, hreturn, hfeed⟩ => ⟨hnil, hreturn, hfeed⟩⟩

variable {s t word : List Char} {words : List (List Char)}

namespace Document

/-- A word is found at the start of both texts or of neither. -/
theorem rel_after? (hreturn : '\r' ∉ word) (hfeed : '\n' ∉ word) (h : Returns s t) :
    Option.Rel Returns (after? word s) (after? word t) := by
  induction word generalizing s t with
  | nil => exact .some h
  | cons first word ih =>
    rw [List.mem_cons, not_or] at hreturn hfeed
    cases h with
    | nil => exact .none
    | last =>
      rw [after?_cons_cons, if_neg (Ne.symm hreturn.1)]
      exact .none
    | cons c h =>
      rw [after?_cons_cons, after?_cons_cons]
      split
      · exact ih hreturn.2 hfeed.2 h
      · exact .none
    | feed h =>
      rw [after?_cons_cons, after?_cons_cons, if_neg (Ne.symm hfeed.1),
        if_neg (Ne.symm hreturn.1)]
      exact .none

/-- A word starts a text if something follows it there. -/
theorem isPrefixOf_eq_isSome (word s : List Char) : word.isPrefixOf s = (after? word s).isSome := by
  rw [after?]
  cases word.isPrefixOf s <;> rfl

/-- A word starts both texts or neither. -/
theorem isPrefixOf_eq_of_returns (hword : Unbroken word) (h : Returns s t) :
    word.isPrefixOf t = word.isPrefixOf s := by
  rw [isPrefixOf_eq_isSome, isPrefixOf_eq_isSome,
    isSome_eq_of_rel (rel_after? hword.no_return hword.no_feed h)]

/-- An info line ends alike. -/
theorem rel_afterInfo? (h : Returns s t) : Option.Rel Returns (afterInfo? s) (afterInfo? t) := by
  induction h with
  | nil => exact .none
  | last => exact .none
  | @cons s t c h ih =>
    rw [afterInfo?, afterInfo?]
    split
    next =>
      cases hs : afterInfo? s <;> cases ht : afterInfo? t <;> rw [hs, ht] at ih <;> cases ih
      · dsimp only
        split
        · exact .some h
        · exact .none
      next h => exact .some h
    next => exact .none
  | @feed s t h ih =>
    -- the return is a blank in front of the line feed that ends the line
    have hreturn : afterInfo? ('\r' :: '\n' :: t) = afterInfo? ('\n' :: t) := by
      rw [afterInfo?, if_pos isBlank_return, afterInfo?, if_pos isBlank_newline]
      cases afterInfo? t <;> rfl
    rw [hreturn, afterInfo?, afterInfo?, if_pos isBlank_newline]
    cases hs : afterInfo? s <;> cases ht : afterInfo? t <;> rw [hs, ht] at ih <;> cases ih
    · exact .some h
    next h => exact .some h

/-- A text starts with a delimiter, which ends the body, or with a character of the body. -/
private theorem untilTicks?_cons (c : Char) (s : List Char) :
    untilTicks? (c :: s) = ((after? ticks (c :: s)).map ([], ·)).orElse fun () =>
      (untilTicks? s).map fun (body, rest) => (c :: body, rest) := by
  rw [untilTicks?]
  cases after? ticks (c :: s) <;> rfl

/-- A character that is no backtick belongs to the body. -/
private theorem untilTicks?_cons_of_ne {c : Char} (hc : '`' ≠ c) (s : List Char) :
    untilTicks? (c :: s) = (untilTicks? s).map fun (body, rest) => (c :: body, rest) := by
  rw [untilTicks?_cons, ticks, after?_cons_cons, if_neg hc]
  rfl

/-- The body of a block ends at the same delimiter. -/
theorem rel_untilTicks? (h : Returns s t) :
    Option.Rel Taken (untilTicks? s) (untilTicks? t) := by
  induction h with
  | nil => exact .none
  | last => exact .none
  | cons c h ih =>
    rw [untilTicks?_cons, untilTicks?_cons]
    refine rel_orElse (rel_map (rel_after? (by decide) (by decide) (.cons c h)) ?_) (rel_map ih ?_)
    · exact fun _ _ hrest => ⟨Leads.refl [], hrest⟩
    · exact fun _ _ htaken => ⟨(Leads.refl [c]).append htaken.taken, htaken.rest⟩
  | feed h ih =>
    rw [untilTicks?_cons_of_ne (by decide), untilTicks?_cons_of_ne (by decide),
      untilTicks?_cons_of_ne (by decide), Option.map_map]
    exact rel_map ih fun _ _ htaken => ⟨leads_feed.append htaken.taken, htaken.rest⟩

variable {tag : List Char}

/-- A block has the same body, and the same follows it. -/
theorem rel_block? (htag : Unbroken tag) (h : Returns s t) :
    Option.Rel Taken (block? tag s) (block? tag t) := by
  have hreturn : '\r' ∉ ticks ++ tag := by simp [ticks, htag.no_return]
  have hfeed : '\n' ∉ ticks ++ tag := by simp [ticks, htag.no_feed]
  refine rel_bind (rel_after? hreturn hfeed h) fun s t _ _ h => ?_
  exact rel_bind (rel_afterInfo? h) fun s t _ _ h => rel_untilTicks? h

/-- No block starts at a line end. -/
private theorem block?_eq_none_of_ne {c : Char} (hc : '`' ≠ c) (s : List Char) :
    block? tag (c :: s) = none :=
  block?_eq_none (by simp [ticks, hc])

/-- The blocks of a document are found alike. -/
theorem bodies_of_returns (htag : Unbroken tag) (h : Returns s t) :
    List.Forall₂ Returns (bodies tag s) (bodies tag t) := by
  fun_induction bodies tag s generalizing t with
  | case1 s body rest hblock ih =>
    obtain ⟨⟨body, rest⟩, hother, htaken⟩ := exists_of_rel (rel_block? htag h) hblock
    rw [bodies_of_block? hother]
    exact .cons htaken.taken.returns (ih htaken.rest)
  | case2 =>
    cases h with
    | nil => rw [bodies_nil]; exact .nil
    | last =>
      rw [bodies_cons (block?_eq_none_of_ne (by decide) []), bodies_nil]
      exact .nil
  | case3 c s hnone ih =>
    have hother := eq_none_of_rel (rel_block? htag h) hnone
    cases h with
    | cons c h => rw [bodies_cons hother]; exact ih h
    | feed h =>
      rw [bodies_cons hother, bodies_cons (block?_eq_none_of_ne (by decide) _)]
      exact ih h

/-! ## Contents -/

/-- Whether a text is only an ellipsis does not depend on returns. -/
theorem isEllipsis_of_returns (h : Returns s t) : isEllipsis t = isEllipsis s := by
  rw [isEllipsis, isEllipsis, decide_eq_decide]
  exact h.trim_eq_iff (by decide)

/-- The mark of a hidden line is removed alike. -/
private theorem lineReturns_restoreLine {line other : List Char} (h : LineReturns line other) :
    LineReturns (restoreLine line) (restoreLine other) := by
  rcases h with rfl | rfl
  · exact .inl rfl
  -- the mark is at the start of the line, and a return is no space
  · fun_cases restoreLine line with
    | case1 => exact .inr rfl
    | case2 line hspace =>
      cases line with
      | nil => exact .inr rfl
      | cons c line =>
        exact .inr (restoreLine.eq_2 _ fun rest heq => hspace line (by rw [(List.cons.inj heq).1]))
    | case3 line hspace hhidden =>
      cases line with
      | nil => exact .inr rfl
      | cons c line =>
        exact .inr (restoreLine.eq_3 _
          (fun rest heq => hhidden line (by rw [(List.cons.inj heq).1]))
          fun rest heq => hhidden line (by rw [(List.cons.inj heq).1]))

/-- The marks of hidden lines are removed alike. -/
theorem restoreHidden_of_returns (h : Returns s t) :
    Returns (restoreHidden s) (restoreHidden t) :=
  returns_joinLines (List.rel_map (fun _ _ h => lineReturns_restoreLine h) h.splitLines)

/-- The contents of the retained blocks of a document are the same but for returns. -/
theorem contents_of_returns (htag : Unbroken tag) (h : Returns s t) :
    List.Forall₂ Returns (contents tag s) (contents tag t) := by
  have hcontents : List.Forall₂ Returns
      ((bodies tag s).map fun body => restoreHidden (trimEnd body))
      ((bodies tag t).map fun body => restoreHidden (trimEnd body)) :=
    List.rel_map (fun _ _ h => restoreHidden_of_returns h.trimEnd) (bodies_of_returns htag h)
  exact List.rel_filter (fun _ _ h => by simp only [isEllipsis_of_returns h]) hcontents

end Document

namespace Source

open Document

/-! ## Imports -/

/-- A line imports a name whether it has a return or not. -/
private theorem isImport_of_lineReturns {line other : List Char} (h : LineReturns line other) :
    isImport other = isImport line :=
  isPrefixOf_eq_of_returns (by decide) h.trimStart.returns

/-- The imports of a text do not depend on returns. -/
theorem imports_eq_of_returns (h : Returns s t) : imports t = imports s := by
  have himports : List.Forall₂ LineReturns ((splitLines s).filter isImport)
      ((splitLines t).filter isImport) :=
    List.rel_filter (fun _ _ h => by simp only [isImport_of_lineReturns h]) h.splitLines
  exact map_eq_of_lineReturns LineReturns.trim_eq himports

/-- The other lines of a text, with ellipses marked, are the same but for returns. -/
theorem lineReturns_bodyLines (h : Returns s t) :
    List.Forall₂ LineReturns ((bodyLines s).map markEllipsis)
      ((bodyLines t).map markEllipsis) := by
  have hbody : List.Forall₂ LineReturns (bodyLines s) (bodyLines t) :=
    List.rel_filter (fun _ _ h => by simp only [isImport_of_lineReturns h]) h.splitLines
  refine List.rel_map (fun line other h => ?_) hbody
  rw [markEllipsis, markEllipsis, isEllipsis_of_returns h.returns]
  split
  · exact .inl rfl
  · exact h

/-! ## Words and blanks -/

/-- A word of a list starts both texts or neither. -/
theorem rel_afterWord? (hwords : ∀ word ∈ words, Unbroken word) (h : Returns s t) :
    Option.Rel Taken (afterWord? words s) (afterWord? words t) := by
  induction words with
  | nil => exact .none
  | cons word words ih =>
    obtain ⟨hword, hwords⟩ := List.forall_mem_cons.1 hwords
    rw [afterWord?_cons, afterWord?_cons]
    refine rel_orElse (rel_map (rel_after? hword.no_return hword.no_feed h) ?_) (ih hwords)
    exact fun _ _ hrest => ⟨Leads.refl word, hrest⟩

/-- Either both texts are blank, or the leading blanks of both lead on alike. -/
private theorem leads_takeWhile (h : Returns s t) :
    (trimStart s = [] ∧ trimStart t = []) ∨
      (Leads (s.takeWhile isBlank) (t.takeWhile isBlank) ∧
        (s.takeWhile isBlank = [] ↔ t.takeWhile isBlank = [])) := by
  induction h with
  | nil => exact .inl ⟨rfl, rfl⟩
  | last => exact .inl ⟨rfl, rfl⟩
  | @cons s t c h ih =>
    by_cases hc : isBlank c = true
    · simp only [trimStart, List.dropWhile_cons, List.takeWhile_cons, hc, if_true] at ih ⊢
      rcases ih with hblank | ⟨hleads, -⟩
      · exact .inl hblank
      · exact .inr ⟨(Leads.refl [c]).append hleads, by simp⟩
    · simp only [List.takeWhile_cons, hc]
      exact .inr ⟨Leads.refl [], by simp⟩
  | @feed s t h ih =>
    rcases ih with hblank | ⟨hleads, -⟩
    · exact .inl hblank
    · exact .inr ⟨leads_feed.append hleads, by simp⟩

/-- Nothing goes on after blanks that nothing follows. -/
private theorem afterBlanks?_bind_eq_none {α : Type} {next : List Char × List Char → Option α}
    (hblank : trimStart s = []) (hnil : ∀ blanks, next (blanks, []) = none) :
    (afterBlanks? s).bind next = none := by
  rw [afterBlanks?_eq, hblank]
  split
  · rfl
  · exact hnil _

/-- What goes on after blanks goes on alike, if nothing goes on at the end of a text. -/
theorem rel_afterBlanks?_bind {α β : Type} {related : α → β → Prop}
    {next : List Char × List Char → Option α} {nextOther : List Char × List Char → Option β}
    (h : Returns s t) (hnil : ∀ blanks, next (blanks, []) = none)
    (hnilOther : ∀ blanks, nextOther (blanks, []) = none)
    (hnext : ∀ read other, afterBlanks? s = some read → Taken read other →
      Option.Rel related (next read) (nextOther other)) :
    Option.Rel related ((afterBlanks? s).bind next) ((afterBlanks? t).bind nextOther) := by
  rcases leads_takeWhile h with ⟨hs, ht⟩ | ⟨hleads, hempty⟩
  · rw [afterBlanks?_bind_eq_none hs hnil, afterBlanks?_bind_eq_none ht hnilOther]
    exact .none
  · have hread : Option.Rel Taken (afterBlanks? s) (afterBlanks? t) := by
      rw [afterBlanks?_eq, afterBlanks?_eq]
      simp only [hempty]
      split
      · exact .none
      · exact .some ⟨hleads, h.trimStart⟩
    exact rel_bind hread fun read other hread _ htaken => hnext read other hread htaken

/-! ## Modifiers of local types -/

/-- A rule whose words reach over no line end. -/
structure VisibilityRule.Unbroken (rule : VisibilityRule) : Prop where
  /-- The modifiers. -/
  modifiers : ∀ word ∈ rule.modifiers, SnippetCheck.Unbroken word
  /-- The words behind a modifier. -/
  qualifiers : ∀ word ∈ rule.qualifiers, SnippetCheck.Unbroken word
  /-- The kinds of types. -/
  kinds : ∀ word ∈ rule.kinds, SnippetCheck.Unbroken word

/-- Whether a word may end before a text does not depend on returns. -/
private theorem endsWord_of_returns (h : Returns s t) : endsWord t = endsWord s := by
  cases h with
  | nil => rfl
  | last => decide
  | cons => rfl
  | feed => simp only [endsWord]; decide

variable {rule : VisibilityRule}

/-- Nothing is declared in an empty text. -/
theorem VisibilityRule.Unbroken.declaration?_nil (hrule : rule.Unbroken) :
    declaration? rule [] = none :=
  Source.declaration?_nil (fun h => (hrule.qualifiers _ h).ne_nil rfl)
    fun h => (hrule.kinds _ h).ne_nil rfl

/-- A declaration is found alike. -/
theorem rel_declaration? (hrule : rule.Unbroken) (h : Returns s t) :
    Option.Rel Taken (declaration? rule s) (declaration? rule t) := by
  -- by length, as the declaration behind a qualifier is looked for in what the blanks leave
  induction hlength : s.length using Nat.strongRecOn generalizing s t with
  | ind n ih =>
    rw [declaration?_eq, declaration?_eq rule t]
    have hrel := rel_afterWord? hrule.qualifiers h
    cases hword : afterWord? rule.qualifiers s with
    | none =>
      rw [eq_none_of_rel hrel hword]
      -- without such a word, a kind of type has to follow
      exact rel_filter (rel_afterWord? hrule.kinds h) fun _ _ htaken =>
        endsWord_of_returns htaken.rest
    | some read =>
      obtain ⟨other, hother, htaken⟩ := exists_of_rel hrel hword
      rw [hother]
      refine rel_afterBlanks?_bind htaken.rest ?_ ?_ fun blanks blanksOther hblanks hgap => ?_
      · simp [hrule.declaration?_nil]
      · simp [hrule.declaration?_nil]
      · have hshorter : blanks.2.length < n := by
          have := length_le_of_afterWord? hword
          have := length_lt_of_afterBlanks? hblanks
          omega
        refine rel_map (ih _ hshorter hgap.rest rfl) fun declared declaredOther hdeclared => ?_
        exact ⟨(htaken.taken.append hgap.taken).append hdeclared.taken, hdeclared.rest⟩

/-- The declaration behind a modifier is found alike. -/
theorem rel_modified? (hrule : rule.Unbroken) (h : Returns s t) :
    Option.Rel Taken (modified? rule s) (modified? rule t) := by
  refine rel_bind (rel_afterWord? hrule.modifiers h) fun read other _ _ htaken => ?_
  refine rel_afterBlanks?_bind htaken.rest ?_ ?_ fun blanks blanksOther _ hgap => ?_
  · exact fun _ => hrule.declaration?_nil
  · exact fun _ => hrule.declaration?_nil
  · exact rel_declaration? hrule hgap.rest

/-- Modifiers are removed alike. -/
theorem stripFrom_of_returns (hrule : rule.Unbroken) (atStart : Bool) (h : Returns s t) :
    Returns (stripFrom rule atStart s) (stripFrom rule atStart t) := by
  -- a return is blank, so that it is no place for a modifier and does not end the start of a line
  fun_induction stripFrom rule atStart s generalizing t with
  | case1 atStart =>
    cases h with
    | nil => rw [stripFrom]; exact .nil
    | last => rw [stripFrom_of_isBlank isBlank_return, stripFrom]; exact .last
  | case2 atStart c s hstart declared rest hmodified ih =>
    simp only [Bool.and_eq_true, Bool.not_eq_true'] at hstart
    obtain ⟨rfl, hblank⟩ := hstart
    obtain ⟨⟨declared, rest⟩, hother, htaken⟩ := exists_of_rel (rel_modified? hrule h) hmodified
    cases h with
    | cons =>
      rw [stripFrom_of_modified hblank hother]
      exact htaken.taken _ _ (ih htaken.rest)
    | feed => simp at hblank
  | case3 atStart c s hstart hmodified ih =>
    simp only [Bool.and_eq_true, Bool.not_eq_true'] at hstart
    obtain ⟨rfl, hblank⟩ := hstart
    have hother := eq_none_of_rel (rel_modified? hrule h) hmodified
    cases h with
    | cons _ h =>
      rw [stripFrom_of_modified_none hblank hother]
      exact .cons c (ih h)
    | feed => simp at hblank
  | case4 atStart c s hstart ih =>
    cases h with
    | cons _ h =>
      rw [stripFrom, if_neg hstart]
      exact .cons c (ih h)
    | feed h =>
      rw [stripFrom_of_isBlank isBlank_return, stripFrom_of_isBlank isBlank_newline]
      exact .feed (ih h)

/-- A text without the modifiers of its local types is the same but for returns. -/
theorem stripVisibility_of_returns (hrule : rule.Unbroken) (h : Returns s t) :
    Returns (stripVisibility rule s) (stripVisibility rule t) :=
  stripFrom_of_returns hrule true h

/-! ## Relocated declarations -/

/-- Two bodies split into the same blocks and remaining lines, but for returns. -/
structure Relocated.SameButReturns (split other : Relocated) : Prop where
  /-- The blocks for the file scope. -/
  fileScope : List.Forall₂ (List.Forall₂ LineReturns) split.fileScope other.fileScope
  /-- The blocks for the type scope. -/
  typeScope : List.Forall₂ (List.Forall₂ LineReturns) split.typeScope other.typeScope
  /-- The lines outside all blocks. -/
  remaining : List.Forall₂ LineReturns split.remaining other.remaining

variable {lines others : List (List Char)}

/-- A return is no brace. -/
private theorem braceDelta_of_lineReturns {line other : List Char} (h : LineReturns line other) :
    braceDelta other = braceDelta line := by
  rcases h with rfl | rfl
  · rfl
  · induction line with
    | nil => rfl
    | cons c line ih => rw [List.cons_append, braceDelta, braceDelta, ih]

/-- A block takes the same lines, and the same lines are left. -/
private theorem takeBlock_of_lineReturns (h : List.Forall₂ LineReturns lines others) (depth : Int) :
    List.Forall₂ LineReturns (takeBlock depth lines).1 (takeBlock depth others).1 ∧
      List.Forall₂ LineReturns (takeBlock depth lines).2 (takeBlock depth others).2 := by
  induction h generalizing depth with
  | nil => exact ⟨.nil, .nil⟩
  | cons hline hlines ih =>
    rw [takeBlock, takeBlock, braceDelta_of_lineReturns hline]
    split
    · exact ⟨.cons hline (ih _).1, (ih _).2⟩
    · exact ⟨.nil, .cons hline hlines⟩

/-- Declarations are lifted out alike, if it does not depend on returns which lines start them. -/
theorem relocate_of_lineReturns {classify : List Char → Option Scope}
    (hclassify : ∀ {line other}, LineReturns line other → classify other = classify line)
    (h : List.Forall₂ LineReturns lines others) :
    (relocate classify lines).SameButReturns (relocate classify others) := by
  fun_induction relocate classify lines generalizing others with
  | case1 =>
    cases h
    rw [relocate]
    exact ⟨.nil, .nil, .nil⟩
  | case2 line lines scope hscope taken _ =>
    rename_i ih
    obtain ⟨other, others, hline, hlines, rfl⟩ := List.forall₂_cons_left_iff.1 h
    obtain ⟨hblock, hrest⟩ := takeBlock_of_lineReturns hlines (braceDelta line)
    obtain ⟨hfile, htype, hremaining⟩ := ih hrest
    rw [relocate, hclassify hline, hscope]
    simp only [braceDelta_of_lineReturns hline]
    cases scope with
    | file => exact ⟨.cons (.cons hline hblock) hfile, htype, hremaining⟩
    | type => exact ⟨hfile, .cons (.cons hline hblock) htype, hremaining⟩
  | case3 line lines hnone ih =>
    obtain ⟨other, others, hline, hlines, rfl⟩ := List.forall₂_cons_left_iff.1 h
    obtain ⟨hfile, htype, hremaining⟩ := ih hlines
    rw [relocate, hclassify hline, hnone]
    exact ⟨hfile, htype, .cons hline hremaining⟩

end Source

end SnippetCheck
