import SnippetCheck.Files.Access
import SnippetCheck.Proofs.Text.Lines

/-!
# Where Paths Lead

`target cwd path` is the location that the parts of a path name, whatever stands there. A path
that can be followed leads to it (`Tree.target_eq_of_locate`). A name that is joined to a path
becomes the last name of its target (`target_join`), and so is the file name of any path
(`exists_target_eq_append`); paths with different file names therefore lead to different
locations.
-/

namespace SnippetCheck.Files

open SnippetCheck.Text

/-- Take the step that one part of a path names. -/
def follow (location : Location) (part : String) : Location :=
  if part = "" || part = "." then location
  else if part = ".." then location.dropLast
  else location ++ [part]

/-- The location that a path names. -/
def target (cwd : Location) (path : String) : Location :=
  (parts path).foldl follow (start cwd path)

/-- A text that is one name: it is not silent, leads nowhere up, and has no slash. -/
structure IsName (name : String) : Prop where
  no_slash : '/' ∉ name.toList
  ne_empty : name ≠ ""
  ne_here : name ≠ "."
  ne_up : name ≠ ".."

/-- An empty part is no step. -/
@[simp]
theorem follow_empty (location : Location) : follow location "" = location := rfl

/-- A name is one step down. -/
theorem IsName.follow_eq {name : String} (h : IsName name) (location : Location) :
    follow location name = location ++ [name] := by
  simp [follow, h.ne_empty, h.ne_here, h.ne_up]

/-! ## Paths that can be followed -/

/-- A part that can be followed leads where it says. -/
theorem Tree.enter_eq_follow {tree : Tree} {location next : Location} {part : String}
    (h : tree.enter location part = .ok next) :
    tree.get? location = some .directory ∧ next = follow location part := by
  unfold enter at h
  split at h
  next => cases h
  next => cases h
  next hdirectory =>
    refine ⟨hdirectory, ?_⟩
    unfold follow
    split at h
    next hsilent => rw [if_pos hsilent, Except.ok.inj h]
    next hsilent =>
      rw [if_neg hsilent]
      split at h
      next hup => rw [if_pos hup, Except.ok.inj h]
      next hup =>
        rw [if_neg hup]
        split at h
        · cases h
        · exact (Except.ok.inj h).symm

/-- Parts that can be followed lead where they say. -/
theorem Tree.foldlM_enter_eq_foldl {tree : Tree} {parts : List String} {location last : Location}
    (h : parts.foldlM tree.enter location = .ok last) : last = parts.foldl follow location := by
  induction parts generalizing location with
  | nil => exact (Except.ok.inj h).symm
  | cons part parts ih =>
    rw [List.foldlM_cons] at h
    cases hnext : tree.enter location part with
    | error refusal => rw [hnext] at h; cases h
    | ok next =>
      rw [hnext] at h
      rw [List.foldl_cons, ← (Tree.enter_eq_follow hnext).2]
      exact ih h

/-- A path that can be followed leads to its target. -/
theorem Tree.target_eq_of_locate {tree : Tree} {cwd location : Location} {path : String}
    (h : tree.locate cwd path = .ok location) : target cwd path = location := by
  unfold locate at h
  split at h
  · cases h
  split at h
  · cases h
  · exact (Tree.foldlM_enter_eq_foldl h).symm

/-! ## Joined paths -/

/-- A name does not start at the root. -/
theorem IsName.isAbsolute {name : String} (h : IsName name) :
    Path.isAbsolute name.toList = false := by
  rw [Path.isAbsolute, decide_eq_false_iff_not]
  exact fun hhead => h.no_slash (List.mem_of_head? hhead)

/-- A name that is joined to a path makes one more step, after those of the path. -/
private theorem foldl_follow_join {name : String} (h : IsName name) (base : String)
    (location : Location) :
    (parts (Path.join base name)).foldl follow location =
      (parts base).foldl follow location ++ [name] := by
  have hone : splitAt '/' name.toList = [name.toList] := splitAt_of_not_mem h.no_slash
  simp only [parts, Path.join, Path.joinChars, h.isAbsolute, String.toList_ofList]
  by_cases hempty : base.toList = []
  · simp [hempty, hone, splitAt, h.follow_eq]
  by_cases hslash : base.toList.getLast? = some '/'
  · obtain ⟨before, hbefore⟩ := List.getLast?_eq_some_iff.1 hslash
    simp [hbefore, splitAt_append_cons, hone, splitAt, h.follow_eq]
  · have hisEmpty : base.toList.isEmpty = false := by simpa using hempty
    simp [hisEmpty, hslash, splitAt_append_cons, hone, h.follow_eq]

/-- A path that a name is joined to starts where it has started. -/
theorem start_join {name : String} (h : IsName name) (cwd : Location) (base : String) :
    start cwd (Path.join base name) = start cwd base := by
  have habsolute : Path.isAbsolute (Path.joinChars base.toList name.toList) =
      Path.isAbsolute base.toList := by
    unfold Path.joinChars
    rw [if_neg (by simp [h.isAbsolute])]
    cases base.toList with
    | nil => exact h.isAbsolute
    | cons c rest => split <;> rfl
  simp only [start, Path.join, String.toList_ofList, habsolute]

/-- A name that is joined to a path becomes the last name of its target. -/
theorem target_join {name : String} (h : IsName name) (cwd : Location) (base : String) :
    target cwd (Path.join base name) = target cwd base ++ [name] := by
  rw [target, target, start_join h, foldl_follow_join h]

/-! ## File names -/

/-- A part that is neither silent nor leads up is one step down. -/
theorem follow_of_not_isSilent {part : List Char} (h : Path.isSilent part = false)
    (hup : part ≠ ['.', '.']) (location : Location) :
    follow location (String.ofList part) = location ++ [String.ofList part] := by
  have hne {other : List Char} (hother : part ≠ other) :
      String.ofList part ≠ String.ofList other := fun heq => hother (String.ofList_injective heq)
  simp only [Path.isSilent, Bool.or_eq_false_iff, List.isEmpty_eq_false_iff,
    decide_eq_false_iff_not] at h
  have hempty : String.ofList part ≠ "" := hne h.1
  have hhere : String.ofList part ≠ "." := hne h.2
  have habove : String.ofList part ≠ ".." := hne hup
  simp [follow, hempty, hhere, habove]

/-- A silent part is no step. -/
theorem follow_of_isSilent {part : List Char} (h : Path.isSilent part = true)
    (location : Location) : follow location (String.ofList part) = location := by
  simp only [Path.isSilent, Bool.or_eq_true, List.isEmpty_iff, decide_eq_true_eq] at h
  rcases h with rfl | rfl <;> rfl

/-- Silent parts are no steps. -/
private theorem foldl_follow_of_isSilent {silent : List (List Char)}
    (h : ∀ part ∈ silent, Path.isSilent part = true) (location : Location) :
    (silent.map String.ofList).foldl follow location = location := by
  induction silent with
  | nil => rfl
  | cons part silent ih =>
    rw [List.map_cons, List.foldl_cons, follow_of_isSilent (h part List.mem_cons_self)]
    exact ih fun other hother => h other (List.mem_cons_of_mem part hother)

/-- The last part of a path that is not silent is the same with and without its leading slash
or dot. -/
private theorem exists_splitAt_eq {path part : List Char} {before silent : List (List Char)}
    (hpart : Path.isSilent part = false) (h : (Path.split path).2 = before ++ part :: silent) :
    ∃ before, splitAt '/' path = before ++ part :: silent := by
  unfold Path.split at h
  split at h
  next rest => exact ⟨[] :: before, by simpa [splitAt] using h⟩
  next => simp at h
  next rest =>
    cases before with
    | nil =>
      rw [← (List.cons.inj h).1] at hpart
      cases hpart
    | cons first before =>
      exact ⟨['.'] :: before, by simpa [splitAt, consFirst] using (List.cons.inj h).2⟩
  next => exact ⟨before, h⟩

/-- The file name of a path is its last part that is not silent. -/
private theorem exists_split_eq {path name : List Char} (h : Path.fileNameChars path = some name) :
    Path.isSilent name = false ∧ name ≠ ['.', '.'] ∧ ∃ before silent,
      (Path.split path).2 = before ++ name :: silent ∧
        ∀ part ∈ silent, Path.isSilent part = true := by
  unfold Path.fileNameChars at h
  split at h
  next _ last before hparts =>
    split at h
    next => cases h
    next hup =>
      cases h
      -- the name is where dropping silent parts from the end stops
      have hsilent : Path.isSilent name = false := by
        have hhead := List.head?_dropWhile_not Path.isSilent (Path.split path).2.reverse
        rw [hparts] at hhead
        exact hhead
      refine ⟨hsilent, hup, before.reverse,
        ((Path.split path).2.reverse.takeWhile Path.isSilent).reverse, ?_, ?_⟩
      · have hall := List.takeWhile_append_dropWhile (p := Path.isSilent)
          (l := (Path.split path).2.reverse)
        rw [hparts] at hall
        simpa using (congrArg List.reverse hall).symm
      · intro other hother
        exact List.all_eq_true.1 List.all_takeWhile other (List.mem_reverse.1 hother)
  next => cases h

/-- The file name of a path is the last name of its target. -/
theorem exists_target_eq_append {path name : String} (h : Path.fileName? path = some name)
    (cwd : Location) : ∃ dir, target cwd path = dir ++ [name] := by
  obtain ⟨chars, hchars, rfl⟩ := Option.map_eq_some_iff.1 h
  obtain ⟨hsilent, hup, before, silent, hsplit, hsilents⟩ := exists_split_eq hchars
  obtain ⟨before, hparts⟩ := exists_splitAt_eq hsilent hsplit
  refine ⟨(before.map String.ofList).foldl follow (start cwd path), ?_⟩
  rw [target, parts, hparts, List.map_append, List.map_cons, List.foldl_append, List.foldl_cons,
    foldl_follow_of_isSilent hsilents, follow_of_not_isSilent hsilent hup]

/-- The extension of the name that a location ends in. -/
def extensionAt? (location : Location) : Option String :=
  location.getLast?.bind fun name => (Path.extensionOfName name.toList).map String.ofList

/-- The extension of a path is that of the name that its target ends in. -/
theorem extensionAt?_target {path extension : String} (h : Path.extension? path = some extension)
    (cwd : Location) : extensionAt? (target cwd path) = some extension := by
  obtain ⟨name, hname, hextension⟩ := Option.bind_eq_some_iff.1 h
  have hfile : Path.fileName? path = some (String.ofList name) := by rw [Path.fileName?, hname]; rfl
  obtain ⟨dir, htarget⟩ := exists_target_eq_append hfile cwd
  simp [extensionAt?, htarget, hextension]

/-- A name that is joined to a path gives the target its extension. -/
theorem extensionAt?_target_join {name : String} (h : IsName name) (cwd : Location)
    (base : String) :
    extensionAt? (target cwd (Path.join base name)) =
      (Path.extensionOfName name.toList).map String.ofList := by
  simp [extensionAt?, target_join h]

/-- The extension of a name is what follows its last dot, if something stands before that. -/
theorem extensionOfName_append {stem extension : List Char} (hstem : stem ≠ [])
    (hextension : '.' ∉ extension) :
    Path.extensionOfName (stem ++ '.' :: extension) = some extension := by
  have hreverse : (stem ++ '.' :: extension).reverse =
      extension.reverse ++ '.' :: stem.reverse := by
    simp
  -- read from the end, the extension is all that stands before the first dot
  have htake : (extension.reverse ++ '.' :: stem.reverse).takeWhile (· ≠ '.') =
      extension.reverse := by
    rw [List.takeWhile_append_of_pos]
    · simp
    · intro c hc
      rw [decide_eq_true_eq]
      rintro rfl
      exact hextension (List.mem_reverse.1 hc)
  obtain ⟨c, rest, hrest⟩ := List.exists_cons_of_ne_nil (List.reverse_ne_nil_iff.2 hstem)
  rw [hrest] at hreverse htake
  simp only [Path.extensionOfName, hreverse, htake, List.drop_left, List.reverse_reverse]

end SnippetCheck.Files
