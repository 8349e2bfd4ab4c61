import SnippetCheck.Compiler.Classpath
import SnippetCheck.Proofs.Action
import SnippetCheck.Proofs.Text.Lines

/-!
# Elements Of Classpaths

Whoever reads a classpath splits it at its separators, and what they find are its elements. The text
that a command exports is split before blanks are left out, so it brings no element that is blank.
An entry of the manifest is one text, of which nothing but the blanks at its ends is left out: what
stands between the separators in it becomes an element as it is, blank or not.

## Main definitions

* `elements`, `parts`: what stands between the separators of a text, tidied part by part, or as it
  is;
* `Classpath.elements`, `Classpath.parts`: the same for all that a classpath is resolved from;
* `IsTidy`: a text whose parts need no tidying;
* `ConsistsOf`: a classpath that was resolved has given elements, or it could not be resolved
  because there are none.

## Main results

* `Classpath.consistsOf_parts`: a classpath consists of its parts;
* `Classpath.elements_of_resolve`: it consists of its elements just when each entry is tidy.
-/

namespace SnippetCheck.Compiler

open Action SnippetCheck.Text

/-! ## Parts and elements -/

/-- Texts without the blanks at their ends, as far as they are not blank. -/
def tidied (texts : List (List Char)) : List (List Char) :=
  (texts.map trim).filter fun text => !text.isEmpty

/-- What stands between the separators of a text, without blanks at the ends, as far as it is not
blank. -/
def elements (s : List Char) : List (List Char) :=
  tidied (splitAt separator s)

/-- What stands between the separators of a text that is not blank, when blanks are left out at its
ends only. -/
def parts (s : List Char) : List (List Char) :=
  if trim s = [] then [] else splitAt separator (trim s)

/-- A text is tidy if no part of it is blank or has blanks at its ends. -/
def IsTidy (s : List Char) : Prop :=
  ∀ part ∈ parts s, part ≠ [] ∧ trim part = part

instance (s : List Char) : Decidable (IsTidy s) :=
  inferInstanceAs (Decidable (∀ part ∈ parts s, part ≠ [] ∧ trim part = part))

/-- Texts are tidied one by one. -/
theorem tidied_append (texts others : List (List Char)) :
    tidied (texts ++ others) = tidied texts ++ tidied others := by
  simp [tidied]

/-- Texts of several sources are tidied source by source. -/
theorem tidied_flatMap {α : Type} (sources : List α) (texts : α → List (List Char)) :
    tidied (sources.flatMap texts) = sources.flatMap fun source => tidied (texts source) := by
  simp only [tidied, List.map_flatMap, List.filter_flatMap]

/-- A text is left out if it is blank, and trimmed if it is not. -/
theorem tidied_cons (text : List Char) (texts : List (List Char)) :
    tidied (text :: texts) =
      if trim text = [] then tidied texts else trim text :: tidied texts := by
  simp [tidied, List.filter_cons]

/-- What is tidied has no blank text and no blanks at the ends of texts. -/
theorem of_mem_tidied {text : List Char} {texts : List (List Char)} (h : text ∈ tidied texts) :
    text ≠ [] ∧ trim text = text := by
  obtain ⟨hmap, hne⟩ := List.mem_filter.1 h
  obtain ⟨whole, -, rfl⟩ := List.mem_map.1 hmap
  exact ⟨by simpa using hne, trim_trim whole⟩

/-- Texts stay as they are when they are tidied just when none is blank or has blanks at its
ends. -/
theorem tidied_eq_self_iff {texts : List (List Char)} :
    tidied texts = texts ↔ ∀ text ∈ texts, text ≠ [] ∧ trim text = text := by
  refine ⟨fun h text htext => of_mem_tidied (h.symm ▸ htext), fun h => ?_⟩
  induction texts with
  | nil => rfl
  | cons text texts ih =>
    obtain ⟨⟨hne, htrim⟩, hrest⟩ := List.forall_mem_cons.1 h
    rw [tidied_cons, htrim, if_neg hne, ih hrest]

/-- No element contains the separator. -/
theorem separator_not_mem_of_mem_elements {s element : List Char} (h : element ∈ elements s) :
    separator ∉ element := by
  obtain ⟨part, hpart, rfl⟩ := List.mem_map.1 (List.mem_filter.1 h).1
  obtain ⟨front, back, heq, -⟩ := exists_eq_append_trim part
  intro hmem
  refine sep_not_mem_of_mem_splitAt hpart ?_
  rw [heq]
  simp [hmem]

/-- The separator is not blank. -/
private theorem separator_not_mem {blanks : List Char} (h : ∀ c ∈ blanks, isBlank c = true) :
    separator ∉ blanks := fun hmem => absurd (h separator hmem) (by decide)

/-- Blanks at the ends of a text bring no elements, and change none. -/
theorem elements_trim (s : List Char) : elements (trim s) = elements s := by
  obtain ⟨front, back, heq, hfront, hback⟩ := exists_eq_append_trim s
  -- no separator is blank, so the blanks are part of the first and of the last part
  have hleft (t : List Char) : elements (front ++ t) = elements t := by
    obtain ⟨first, after, ht, hst⟩ := exists_splitAt_append_left (separator_not_mem hfront) t
    rw [elements, elements, ht, hst, tidied_cons, tidied_cons, trim_append_left hfront]
  have hright : elements (trim s ++ back) = elements (trim s) := by
    obtain ⟨before, last, ht, hst⟩ := exists_splitAt_append_right (separator_not_mem hback) (trim s)
    rw [elements, elements, ht, hst, tidied_append, tidied_append, tidied_cons, tidied_cons,
      trim_append_right hback]
  calc elements (trim s) = elements (front ++ (trim s ++ back)) := by rw [hleft, hright]
    _ = elements s := by rw [← heq]

/-- The elements of a text are its parts, tidied. -/
theorem tidied_parts (s : List Char) : tidied (parts s) = elements s := by
  rw [parts]
  split
  next hblank =>
    rw [← elements_trim s, hblank]
    rfl
  next => exact elements_trim s

/-! ## What a classpath consists of -/

namespace Classpath

/-- What the command of a classpath exports, or nothing if there is no command. -/
def exported (classpath : Classpath) (machine : Machine) (version : SdkVersion) :
    Action CompileError (List Char) :=
  match classpath.exporter with
  | none => return []
  | some exporter => exporter.run machine version

/-- The elements of what was exported, and then those of the entries. -/
def elements (classpath : Classpath) (text : List Char) : List (List Char) :=
  Compiler.elements text ++ classpath.entries.flatMap fun entry => Compiler.elements entry.toList

/-- The elements of what was exported, and then the parts of the entries. -/
def parts (classpath : Classpath) (text : List Char) : List (List Char) :=
  Compiler.elements text ++ classpath.entries.flatMap fun entry => Compiler.parts entry.toList

end Classpath

/-- What has come of a classpath consists of given elements: it is a text with these between its
separators or, if there are none, the error that says so. -/
inductive ConsistsOf : Except CompileError String → List (List Char) → Prop where
  /-- There is nothing to put on the classpath. -/
  | empty : ConsistsOf (.error .emptyClasspath) []
  /-- The classpath is split into its elements, of which there is always one. -/
  | resolved (text : String) : ConsistsOf (.ok text) (splitAt separator text.toList)

/-- What has come of a classpath consists of one list of elements at most. -/
theorem ConsistsOf.unique {outcome : Except CompileError String} {found given : List (List Char)}
    (h : ConsistsOf outcome found) (h' : ConsistsOf outcome given) : found = given := by
  cases h <;> cases h' <;> rfl

/-- Splitting tidied texts gives their parts. -/
theorem flatMap_splitAt_tidied (texts : List (List Char)) :
    (tidied texts).flatMap (splitAt separator) = texts.flatMap parts := by
  induction texts with
  | nil => rfl
  | cons text texts ih =>
    rw [tidied_cons, List.flatMap_cons, parts]
    split
    next => exact ih
    next => rw [List.flatMap_cons, ih]

/-- A classpath that is joined consists of what its texts, when they are tidied, are split into. -/
theorem consistsOf_joinEntries (texts : List (List Char)) :
    ConsistsOf (joinEntries texts) ((tidied texts).flatMap (splitAt separator)) := by
  unfold joinEntries
  split
  next hnone =>
    rw [tidied, hnone]
    exact .empty
  next hsome =>
    have hne : tidied texts ≠ [] := hsome
    have h := ConsistsOf.resolved (String.ofList (joinWith separator (tidied texts)))
    rw [String.toList_ofList, splitAt_joinWith_eq_flatMap hne] at h
    exact h

namespace Classpath

variable {classpath : Classpath} {machine : Machine} {version : SdkVersion}

/-- A classpath is resolved from what is exported, which is split, and the entries, which are
not. -/
theorem exec_resolve (start : Workspace) :
    (classpath.resolve machine version).exec start =
      match (classpath.exported machine version).exec start with
      | (.ok text, final) =>
        (joinEntries (splitAt separator (trim text) ++ classpath.entries.map String.toList), final)
      | (.error error, final) => (.error error, final) := by
  unfold resolve exported
  cases classpath.exporter with
  | none =>
    dsimp only
    rw [exec_liftExcept, exec_pure]
    -- what is split here is the empty text, and its only part is left out
    rfl
  | some exporter =>
    dsimp only
    rw [exec_bind]
    rcases (exporter.run machine version).exec start with ⟨error | text, final⟩
    · rfl
    · exact exec_liftExcept _ final

/-- A classpath consists of its parts. -/
theorem consistsOf_parts (text : List Char) :
    ConsistsOf
      (joinEntries (splitAt separator (trim text) ++ classpath.entries.map String.toList))
      (classpath.parts text) := by
  have h := consistsOf_joinEntries
    (splitAt separator (trim text) ++ classpath.entries.map String.toList)
  rw [tidied_append, List.flatMap_append, flatMap_splitAt_tidied (classpath.entries.map _),
    List.flatMap_map] at h
  -- what is exported has been split before, and is not split any further
  have hexported : (tidied (splitAt separator (trim text))).flatMap (splitAt separator) =
      Compiler.elements text := by
    rw [← elements_trim text]
    exact flatMap_splitAt fun _ => separator_not_mem_of_mem_elements
  rw [hexported] at h
  exact h

/-- The elements of a classpath are its parts, tidied. -/
theorem tidied_parts (text : List Char) :
    tidied (classpath.parts text) = classpath.elements text := by
  have hexported : tidied (Compiler.elements text) = Compiler.elements text :=
    tidied_eq_self_iff.2 fun _ => of_mem_tidied
  simp only [parts, elements, tidied_append, tidied_flatMap, hexported, Compiler.tidied_parts]

/-- The parts of a classpath are its elements just when each entry is tidy. -/
theorem parts_eq_elements_iff (text : List Char) :
    classpath.parts text = classpath.elements text ↔
      ∀ entry ∈ classpath.entries, IsTidy entry.toList := by
  -- elements are parts that were tidied, so there is a difference where tidying changes a part
  rw [← tidied_parts, eq_comm, tidied_eq_self_iff]
  constructor
  · intro h entry hentry part hpart
    exact h part (List.mem_append_right _ (List.mem_flatMap.2 ⟨entry, hentry, hpart⟩))
  · intro h part hpart
    rcases List.mem_append.1 hpart with hexported | hentries
    · exact of_mem_tidied hexported
    · obtain ⟨entry, hentry, hmem⟩ := List.mem_flatMap.1 hentries
      exact h entry hentry part hmem

/-- When a text is exported, or there is no command, a classpath is resolved that consists of the
parts of that text and of the entries, or the error says that there are none. These are the elements
of the text and of the entries, none of them blank or with blanks at its ends, just when every entry
is tidy. -/
theorem elements_of_resolve {text : List Char} {start final : Workspace}
    (h : (classpath.exported machine version).Yields start text final) :
    ∃ outcome, (classpath.resolve machine version).exec start = (outcome, final) ∧
      ConsistsOf outcome (classpath.parts text) ∧
      (ConsistsOf outcome (classpath.elements text) ↔
        ∀ entry ∈ classpath.entries, IsTidy entry.toList) ∧
      ∀ element ∈ classpath.elements text, element ≠ [] ∧ trim element = element := by
  have hexec : (classpath.exported machine version).exec start = (.ok text, final) := h
  have hparts : ConsistsOf _ (classpath.parts text) := consistsOf_parts text
  refine ⟨_, by rw [exec_resolve, hexec], hparts, ?_, fun element helement => ?_⟩
  · rw [← parts_eq_elements_iff text]
    exact ⟨fun helements => hparts.unique helements, fun heq => heq ▸ hparts⟩
  · rw [← tidied_parts] at helement
    exact of_mem_tidied helement

/-- A machine on which every command succeeds and writes a text to its output. -/
def writing (text : String) : Machine where
  run := fun _ _ files => (some ⟨.code 0, text.toUTF8.data.toList, []⟩, files)

/-- A workspace in which nothing is and nothing was launched. -/
def vacant : Workspace where
  files := ⟨[]⟩

/-- The same workspace once the command has been launched. -/
def launched : Workspace where
  files := ⟨[]⟩
  launches := [⟨"export", [], some ""⟩]

/-- A version for the classpaths below. -/
def anyVersion : SdkVersion := ⟨"8.2.0", by decide, by decide⟩

/-- A classpath of what a command exports and two entries, one of them blank. -/
def extended : Classpath := ⟨some ⟨["export"], "", none⟩, ["/c.jar", " "]⟩

/-- A blank element of what is exported and a blank entry are left out, and so is the line feed at
the end of the export. -/
theorem elements_of_resolve_extended :
    let machine := writing "a.jar: :b.jar \n"
    (extended.exported machine anyVersion).Yields vacant "a.jar: :b.jar \n".toList launched ∧
      (extended.resolve machine anyVersion).exec vacant =
        (.ok "a.jar:b.jar:/c.jar", launched) ∧
      ConsistsOf (.ok "a.jar:b.jar:/c.jar") ["a.jar".toList, "b.jar".toList, "/c.jar".toList] := by
  intro machine
  have hexported : (extended.exported machine anyVersion).Yields vacant
      "a.jar: :b.jar \n".toList launched := by
    have hline : Exporter.commandLine ⟨["export"], "", none⟩ anyVersion = ["export"] := by
      decide +kernel
    have hread : readBytes "a.jar: :b.jar \n".toUTF8.data.toList = "a.jar: :b.jar \n".toList := by
      decide +kernel
    rw [← hread]
    change (Exporter.run ⟨["export"], "", none⟩ machine anyVersion).Yields _ _ _
    rw [Exporter.run, hline]
    rfl
  have hresolve : (extended.resolve machine anyVersion).exec vacant =
      (.ok "a.jar:b.jar:/c.jar", launched) := by
    rw [Yields] at hexported
    rw [exec_resolve, hexported]
    rfl
  obtain ⟨outcome, hexec, -, hconsists, -⟩ := elements_of_resolve hexported
  obtain ⟨rfl, -⟩ := Prod.mk.inj (hresolve.symm.trans hexec)
  exact ⟨hexported, hresolve, hconsists.2 (by decide)⟩

/-- A classpath of one entry, in which two separators stand side by side. -/
def doubled : Classpath := ⟨none, ["a.jar::b.jar"]⟩

/-- A classpath of one entry, which is a separator. -/
def lone : Classpath := ⟨none, [":"]⟩

/-- An entry with two separators side by side brings a blank element, and an entry that is a
separator two of them, where there is none to be found; so classpaths do not consist of the elements
that they are resolved from. -/
theorem blank_element_of_entry :
    (∀ machine version start,
      (doubled.resolve machine version).exec start = (.ok "a.jar::b.jar", start) ∧
        (lone.resolve machine version).exec start = (.ok ":", start)) ∧
      ¬ ConsistsOf (.ok "a.jar::b.jar") (doubled.elements []) ∧
      ¬ ConsistsOf (.ok ":") (lone.elements []) ∧
      ¬ ∀ (classpath : Classpath) machine version start text final,
        (classpath.exported machine version).Yields start text final →
          ∃ outcome, (classpath.resolve machine version).exec start = (outcome, final) ∧
            ConsistsOf outcome (classpath.elements text) := by
  have hdoubled : ¬ ConsistsOf (.ok "a.jar::b.jar") (doubled.elements []) := fun h =>
    absurd (h.unique (.resolved "a.jar::b.jar")) (by decide)
  have hlone : ¬ ConsistsOf (.ok ":") (lone.elements []) := fun h =>
    absurd (h.unique (.resolved ":")) (by decide)
  have hresolve (machine : Machine) (version : SdkVersion) (start : Workspace) :
      (doubled.resolve machine version).exec start = (.ok "a.jar::b.jar", start) := rfl
  refine ⟨fun machine version start => ⟨hresolve machine version start, rfl⟩, hdoubled, hlone,
    fun hall => ?_⟩
  obtain ⟨outcome, hexec, hconsists⟩ :=
    hall doubled (writing "") anyVersion vacant [] vacant rfl
  obtain ⟨rfl, -⟩ := Prod.mk.inj ((hresolve _ _ _).symm.trans hexec)
  exact hdoubled hconsists

end Classpath

end SnippetCheck.Compiler
