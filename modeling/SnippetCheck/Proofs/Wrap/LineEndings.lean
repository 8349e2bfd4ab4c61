import SnippetCheck.Proofs.Source.Returns
import SnippetCheck.SourceUnit

/-!
# Sources And Line Endings

A document may be written with line feeds at its line ends or with carriage returns in front of
them. Its snippets are the same but for these returns (`forall₂_snippets`), and the units of two
such snippets are equal in both languages (`Java.unit_eq_of_returns`, `Kotlin.unit_eq_of_returns`).
So the sources that are generated from a document do not depend on its line endings
(`wrap_of_addReturns`).
-/

namespace SnippetCheck

open Text Source Document

/-! ## Snippets of a document -/

/-- Two snippets of the same place whose contents are the same but for returns. -/
structure Snippet.SameButReturns (snippet other : Snippet) : Prop where
  /-- The place of both. -/
  id : other.id = snippet.id
  /-- The contents. -/
  content : Returns snippet.content.toList other.content.toList

/-- The contents of two documents that are related are numbered alike. -/
private theorem forall₂_zipIdx {related : List Char → List Char → Prop}
    {contents others : List (List Char)} (h : List.Forall₂ related contents others) (first : Nat) :
    List.Forall₂ (fun (content, index) (other, place) => related content other ∧ place = index)
      (contents.zipIdx first) (others.zipIdx first) := by
  induction h generalizing first with
  | nil => exact .nil
  | cons hcontent _ ih => exact .cons ⟨hcontent, rfl⟩ (ih (first + 1))

/-- A document with returns at its line ends has the same snippets but for returns. -/
theorem forall₂_snippets {tag text other : String} (htag : Unbroken tag.toList)
    (h : Returns text.toList other.toList) (file : String) :
    List.Forall₂ Snippet.SameButReturns (snippets tag file text) (snippets tag file other) := by
  refine List.rel_map ?_ (forall₂_zipIdx (contents_of_returns htag h) 0)
  rintro ⟨content, index⟩ ⟨other, _⟩ ⟨hcontent, rfl⟩
  exact ⟨rfl, by simpa [Snippet.new] using hcontent⟩

variable {snippet other : Snippet}

/-! ## Java units -/

namespace Java

/-- The unit of a snippet does not depend on returns. -/
theorem unit_eq_of_returns (h : snippet.SameButReturns other) (settings : Settings)
    (className : String) : unit settings className other = unit settings className snippet := by
  have hbody : Returns (body snippet.content.toList) (body other.content.toList) :=
    stripVisibility_of_returns ⟨by decide, by decide, by decide⟩
      (returns_joinLines (lineReturns_bodyLines h.content))
  simp only [unit, importLines, imports_eq_of_returns h.content, h.id, hbody.addLines_eq]

end Java

/-! ## Kotlin units -/

namespace Kotlin

variable {s t : List Char}

/-- The first character of the name of an object, whose word starts a text. -/
def objectName? (s : List Char) : Option Char :=
  (after? "object".toList s).bind fun s =>
    (afterBlanks? s).bind fun (_, name) => name.head?.filter isWord

/-- An object starts where its word and a name do. -/
private theorem startsObject_eq (s : List Char) : startsObject s = (objectName? s).isSome := by
  rw [startsObject, objectName?, ← Option.bind_assoc]
  cases (after? "object".toList s).bind afterBlanks? with
  | none => rfl
  | some read =>
    obtain ⟨_, _ | ⟨c, name⟩⟩ := read
    · rfl
    · cases hc : isWord c <;> simp [hc]

/-- A name starts alike. -/
private theorem rel_head?_isWord (h : Returns s t) :
    Option.Rel (· = ·) (s.head?.filter isWord) (t.head?.filter isWord) := by
  cases h with
  | nil => exact .none
  | last => exact .none
  | cons c =>
    simp only [List.head?_cons, Option.filter_some]
    split
    · exact .some rfl
    · exact .none
  | feed => exact .none

/-- An object is named alike. -/
private theorem rel_objectName? (h : Returns s t) :
    Option.Rel (· = ·) (objectName? s) (objectName? t) := by
  refine rel_bind (rel_after? (by decide) (by decide) h) fun s t _ _ h => ?_
  exact rel_afterBlanks?_bind h (fun _ => rfl) (fun _ => rfl) fun _ _ _ htaken =>
    rel_head?_isWord htaken.rest

/-- What follows the two words of a companion object that start a text. -/
def afterCompanion? (s : List Char) : Option (List Char) :=
  (after? "companion".toList s).bind fun s =>
    (afterBlanks? s).bind fun (_, rest) => after? "object".toList rest

/-- A companion object starts where its two words do. -/
private theorem isCompanion_eq (s : List Char) : isCompanion s = (afterCompanion? s).isSome := by
  rw [isCompanion, afterCompanion?, ← Option.bind_assoc]
  cases (after? "companion".toList s).bind afterBlanks? with
  | none => rfl
  | some read => exact isPrefixOf_eq_isSome _ _

/-- Whether a line declares a companion object does not depend on returns. -/
private theorem isCompanion_of_returns (h : Returns s t) : isCompanion t = isCompanion s := by
  have hrel : Option.Rel Returns (afterCompanion? s) (afterCompanion? t) := by
    refine rel_bind (rel_after? (by decide) (by decide) h) fun s t _ _ h => ?_
    exact rel_afterBlanks?_bind h (fun _ => rfl) (fun _ => rfl) fun _ _ _ htaken =>
      rel_after? (by decide) (by decide) htaken.rest
  rw [isCompanion_eq, isCompanion_eq, isSome_eq_of_rel hrel]

/-- The first character of the name of an object that has a modifier. -/
def modifiedObjectName? (s : List Char) : Option Char :=
  (afterWord? objectModifiers s).bind fun (_, s) =>
    (afterBlanks? s).bind fun (_, s) => objectName? s

/-- An object starts where it is named, behind a modifier or not. -/
private theorem isObject_eq (s : List Char) :
    isObject s = ((objectName? s).isSome || (modifiedObjectName? s).isSome) := by
  rw [isObject, startsObject_eq, modifiedObjectName?, ← Option.bind_assoc]
  congr 1
  split
  next hread => rw [hread, startsObject_eq]; rfl
  next hread => rw [hread]; rfl

/-- Whether a line declares an object does not depend on returns. -/
private theorem isObject_of_returns (h : Returns s t) : isObject t = isObject s := by
  have hrel : Option.Rel (· = ·) (modifiedObjectName? s) (modifiedObjectName? t) := by
    refine rel_bind (rel_afterWord? (by decide) h) fun read other _ _ htaken => ?_
    exact rel_afterBlanks?_bind htaken.rest (fun _ => rfl) (fun _ => rfl) fun _ _ _ hgap =>
      rel_objectName? hgap.rest
  rw [isObject_eq, isObject_eq, isSome_eq_of_rel (rel_objectName? h), isSome_eq_of_rel hrel]

/-- Where a declaration has to go does not depend on returns. -/
private theorem classify_of_lineReturns {line other : List Char} (h : LineReturns line other) :
    classify other = classify line := by
  rw [classify, classify, isCompanion_of_returns h.returns, isObject_of_returns h.returns]

/-- Lifted blocks are added alike. -/
private theorem foldl_addLifted_eq {blocks others : List (List (List Char))}
    (h : List.Forall₂ (List.Forall₂ LineReturns) blocks others) (code : Code) :
    others.foldl addLifted code = blocks.foldl addLifted code := by
  induction h generalizing code with
  | nil => rfl
  | cons hblock _ ih =>
    rw [List.foldl_cons, List.foldl_cons, ih, addLifted, addLifted,
      (returns_joinLines hblock).addLines_eq]

/-- The unit of a snippet does not depend on returns. -/
theorem unit_eq_of_returns (h : snippet.SameButReturns other) (settings : Settings)
    (className : String) : unit settings className other = unit settings className snippet := by
  obtain ⟨hfile, htype, hremaining⟩ : (relocated snippet.content.toList).SameButReturns
      (relocated other.content.toList) :=
    relocate_of_lineReturns classify_of_lineReturns (lineReturns_bodyLines h.content)
  have hbody : Returns (body snippet.content.toList) (body other.content.toList) :=
    stripVisibility_of_returns ⟨by decide, by decide, by decide⟩ (returns_joinLines hremaining)
  simp only [unit, importLines, imports_eq_of_returns h.content, h.id, hbody.addLines_eq,
    foldl_addLifted_eq hfile, foldl_addLifted_eq htype]

end Kotlin

/-- The sources that are generated from a document do not depend on its line endings: with a
carriage return in front of every line feed, the document has as many snippets at the same places,
and the source of each of them under any name of its class is the same. -/
theorem wrap_of_addReturns (language : Language) (settings : Settings) (file text : String) :
    List.Forall₂
      (fun snippet other => other.id = snippet.id ∧ ∀ className,
        SourceUnit.wrap settings className other = SourceUnit.wrap settings className snippet)
      (snippets language.tag file text)
      (snippets language.tag file (String.ofList (addReturns text.toList))) := by
  have htag : Unbroken language.tag.toList := by
    cases language <;> decide
  have htext : Returns text.toList (String.ofList (addReturns text.toList)).toList := by
    rw [String.toList_ofList]
    exact returns_addReturns _
  refine (forall₂_snippets htag htext file).imp fun snippet other h => ⟨h.id, fun className => ?_⟩
  rw [SourceUnit.wrap, SourceUnit.wrap]
  cases settings.language with
  | java => simp only [Java.unit_eq_of_returns h]
  | kotlin => simp only [Kotlin.unit_eq_of_returns h]

end SnippetCheck
