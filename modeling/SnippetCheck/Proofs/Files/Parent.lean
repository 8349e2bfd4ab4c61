import SnippetCheck.Proofs.Files.Way

/-!
# The Directory Of A File

Parts that name no step do not matter for where a path leads: all that counts are its `steps`. A
name that is joined to a path is one more step, and the parent of the joined path leads the way of
the path before it (`exists_parent?_join`). So the way to a file is the way to its directory and
one step more (`mem_dropLast_stages_join`).
-/

namespace SnippetCheck.Files

open SnippetCheck.Text Path

/-- The parts that name a step. -/
def loud (parts : List (List Char)) : List (List Char) :=
  parts.filter fun part => !isSilent part

/-- The steps of a path: its parts but those that name none. -/
def steps (path : String) : List String :=
  (loud (splitAt '/' path.toList)).map String.ofList

/-- Parts that name no step lead nowhere new. -/
private theorem mem_scanl_loud {parts : List (List Char)} {location stage : Location} :
    stage ∈ (parts.map String.ofList).scanl follow location ↔
      stage ∈ ((loud parts).map String.ofList).scanl follow location := by
  induction parts generalizing location with
  | nil => rfl
  | cons part parts ih =>
    rw [List.map_cons, List.scanl_cons, List.mem_cons, ih]
    cases hsilent : isSilent part with
    | false =>
      have hloud : loud (part :: parts) = part :: loud parts := by simp [loud, hsilent]
      rw [hloud, List.map_cons, List.scanl_cons, List.mem_cons]
    | true =>
      have hloud : loud (part :: parts) = loud parts := by simp [loud, hsilent]
      rw [hloud, follow_of_isSilent hsilent]
      refine or_iff_right_of_imp ?_
      rintro rfl
      cases (loud parts).map String.ofList <;> simp

/-- The steps of a path say which locations it leads through. -/
theorem mem_stages_iff {cwd stage : Location} {path : String} :
    stage ∈ stages cwd path ↔ stage ∈ (steps path).scanl follow (start cwd path) :=
  mem_scanl_loud

/-- The parts of two lists that are not silent are those of the one and of the other. -/
theorem loud_append (parts others : List (List Char)) :
    loud (parts ++ others) = loud parts ++ loud others :=
  List.filter_append _ _

/-- Joining and splitting parts without a slash keeps those that are not silent. -/
private theorem loud_splitAt_joinWith {parts : List (List Char)} (h : ∀ part ∈ parts, '/' ∉ part) :
    loud (splitAt '/' (joinWith '/' parts)) = loud parts := by
  induction parts with
  | nil => rfl
  | cons part parts ih =>
    have hpart := splitAt_of_not_mem (h part List.mem_cons_self)
    cases parts with
    | nil => rw [joinWith, hpart]
    | cons next rest =>
      rw [joinWith.eq_3 _ _ _ (List.cons_ne_nil _ _), splitAt_append_cons, loud_append, hpart,
        ih fun other hother => h other (List.mem_cons_of_mem part hother), ← loud_append]
      rfl

/-- Silent parts at the end are no loss. -/
theorem loud_dropSilentEnd (parts : List (List Char)) :
    loud (dropSilentEnd parts) = loud parts := by
  have hall : parts.reverse =
      parts.reverse.takeWhile isSilent ++ parts.reverse.dropWhile isSilent :=
    List.takeWhile_append_dropWhile.symm
  have hparts : parts =
      dropSilentEnd parts ++ (parts.reverse.takeWhile isSilent).reverse := by
    have hreverse := congrArg List.reverse hall
    rwa [List.reverse_reverse, List.reverse_append] at hreverse
  have hsilent : loud (parts.reverse.takeWhile isSilent).reverse = [] := by
    rw [loud, List.filter_eq_nil_iff]
    intro part hmem
    simpa using List.all_eq_true.1 List.all_takeWhile part (List.mem_reverse.1 hmem)
  calc
    loud (dropSilentEnd parts) =
        loud (dropSilentEnd parts) ++ loud (parts.reverse.takeWhile isSilent).reverse := by
      rw [hsilent, List.append_nil]
    _ = loud parts := by rw [← loud_append, ← hparts]

/-- A beginning of some parts that follow a leading slash, dot or neither in a path: with what leads
the path, it is a path that starts where the path does, and says what these parts say. -/
private structure Leads (path lead : List Char) (parts : List (List Char)) : Prop where
  isAbsolute_eq : isAbsolute (lead ++ joinWith '/' parts) = isAbsolute path
  loud_eq : loud (splitAt '/' (lead ++ joinWith '/' parts)) = loud parts

/-- The parts of a path that does not start with a slash do not lead to the root. -/
private theorem isAbsolute_joinWith {path last : List Char} {before parts : List (List Char)}
    (hpath : isAbsolute path = false) (h : splitAt '/' path = before ++ [last])
    (hparts : parts <+: before) : isAbsolute (joinWith '/' parts) = false := by
  cases parts with
  | nil => rfl
  | cons part parts =>
    obtain ⟨rest, rfl⟩ := hparts
    cases path with
    | nil => simp [splitAt] at h
    | cons c path =>
      have hc : c ≠ '/' := by
        rintro rfl
        cases hpath
      rw [splitAt, if_neg hc] at h
      obtain ⟨first, others, hsplit⟩ := List.exists_cons_of_ne_nil (splitAt_ne_nil '/' path)
      rw [hsplit, consFirst] at h
      -- the first part starts with the first character
      obtain rfl : c :: first = part := (List.cons.inj h).1
      cases parts <;> simp [joinWith, isAbsolute, hc]

/-- A dot with a slash behind it is one more part. -/
private theorem splitAt_dot (rest : List Char) :
    splitAt '/' ('.' :: '/' :: rest) = ['.'] :: splitAt '/' rest := by
  simp [splitAt, consFirst]

/-- Behind a dot, each beginning of the parts that follow leads on, with the empty part that stands
for the slash in front of them. -/
private theorem leads_dot {rest : List Char} {before parts : List (List Char)}
    (hslash : ∀ part ∈ before, '/' ∉ part) (hparts : parts <+: [] :: before) :
    Leads ('.' :: '/' :: rest) ['.'] parts := by
  rcases parts with _ | ⟨part, _ | ⟨next, parts⟩⟩
  · exact ⟨rfl, rfl⟩
  · obtain ⟨rfl, -⟩ := List.cons_prefix_cons.1 hparts
    exact ⟨rfl, rfl⟩
  · obtain ⟨rfl, hlater⟩ := List.cons_prefix_cons.1 hparts
    refine ⟨rfl, ?_⟩
    rw [joinWith.eq_3 _ _ _ (List.cons_ne_nil _ _)]
    show loud (splitAt '/' ('.' :: '/' :: joinWith '/' (next :: parts))) = loud (next :: parts)
    rw [splitAt_dot]
    exact loud_splitAt_joinWith fun part hmem => hslash part (hlater.subset hmem)

/-- How a path is split whose last part is not silent: what it says before that part is also what
its parts before that one say, and each beginning of these leads on from the start of the path. -/
private theorem exists_split_eq_append {path last : List Char} {before : List (List Char)}
    (hlast : isSilent last = false) (h : splitAt '/' path = before ++ [last]) :
    ∃ rest, (split path).2 = rest ++ [last] ∧ loud rest = loud before ∧
      ∀ parts, parts <+: rest → Leads path (split path).1 parts := by
  have hslash : ∀ part ∈ before, '/' ∉ part := fun part hmem =>
    sep_not_mem_of_mem_splitAt (h ▸ List.mem_append_left _ hmem)
  unfold split
  split
  next rest =>
    rw [splitAt, if_pos rfl] at h
    cases before with
    | nil => exact absurd (List.cons.inj h).2 (splitAt_ne_nil _ _)
    | cons first before =>
      obtain ⟨rfl, hrest⟩ := List.cons.inj h
      refine ⟨before, hrest, rfl, fun parts hparts => ⟨rfl, ?_⟩⟩
      show loud (splitAt '/' ('/' :: joinWith '/' parts)) = loud parts
      rw [splitAt, if_pos rfl]
      exact loud_splitAt_joinWith fun part hmem =>
        hslash part (List.mem_cons_of_mem _ (hparts.subset hmem))
  next =>
    cases before with
    | nil =>
      obtain ⟨rfl, -⟩ := List.cons.inj h
      cases hlast
    | cons first before => simp [splitAt, consFirst] at h
  next rest =>
    rw [splitAt_dot] at h
    cases before with
    | nil => exact absurd (List.cons.inj h).2 (splitAt_ne_nil _ _)
    | cons first before =>
      obtain ⟨rfl, hrest⟩ := List.cons.inj h
      exact ⟨[] :: before, congrArg _ hrest, rfl, fun parts =>
        leads_dot fun part hmem => hslash part (List.mem_cons_of_mem _ hmem)⟩
  next hroot _ _ =>
    have hpath : isAbsolute path = false := by
      rw [isAbsolute, decide_eq_false_iff_not]
      intro hhead
      obtain ⟨rest, rfl⟩ := List.head?_eq_some_iff.1 hhead
      exact hroot rest rfl
    refine ⟨before, h, rfl, fun parts hparts => ⟨?_, ?_⟩⟩
    · exact (isAbsolute_joinWith hpath h hparts).trans hpath.symm
    · exact loud_splitAt_joinWith fun part hmem => hslash part (hparts.subset hmem)

/-- What is left when silent parts are dropped from the end is a beginning. -/
theorem isPrefix_dropSilentEnd (parts : List (List Char)) :
    dropSilentEnd parts <+: parts := by
  have hsuffix : parts.reverse.dropWhile isSilent <:+ parts.reverse := List.dropWhile_suffix _
  simpa [dropSilentEnd] using List.reverse_prefix.2 hsuffix

/-! ## File names -/

/-- The last part of a path is its file name, if it is a name. -/
theorem fileName?_of_splitAt {path last : List Char} {before : List (List Char)}
    (hlast : isSilent last = false) (hup : last ≠ ['.', '.'])
    (h : splitAt '/' path = before ++ [last]) :
    fileName? (String.ofList path) = some (String.ofList last) := by
  obtain ⟨rest, hrest, -, -⟩ := exists_split_eq_append hlast h
  have hchars : fileNameChars path = some last := by
    unfold fileNameChars
    rw [hrest, List.reverse_append, List.reverse_singleton, List.singleton_append,
      List.dropWhile_cons_of_neg (by simp [hlast])]
    exact if_neg hup
  rw [fileName?, String.toList_ofList, hchars, Option.map_some]

/-! ## Joined names -/

section Join

variable {name : String} (h : IsName name) (base : String)
include h

/-- A name is no silent part. -/
theorem isSilent_toList : isSilent name.toList = false := by
  have hempty : name.toList ≠ [] := fun heq => h.ne_empty (String.toList_injective heq)
  have hhere : name.toList ≠ ['.'] := fun heq => h.ne_here (String.toList_injective heq)
  simp [isSilent, hempty, hhere]

/-- A name that is joined to a path is its last part, after the steps of the path. -/
private theorem exists_splitAt_join :
    ∃ before, splitAt '/' (Path.join base name).toList = before ++ [name.toList] ∧
      loud before = loud (splitAt '/' base.toList) := by
  have hone : splitAt '/' name.toList = [name.toList] := splitAt_of_not_mem h.no_slash
  simp only [Path.join, Path.joinChars, h.isAbsolute, String.toList_ofList]
  by_cases hempty : base.toList = []
  · exact ⟨[], by simp [hempty, hone], by simp [hempty, splitAt, loud, isSilent]⟩
  by_cases hslash : base.toList.getLast? = some '/'
  · obtain ⟨before, hbefore⟩ := List.getLast?_eq_some_iff.1 hslash
    refine ⟨splitAt '/' before, by simp [hbefore, splitAt_append_cons, hone], ?_⟩
    rw [hbefore, splitAt_append_cons, loud_append]
    simp [splitAt, loud, isSilent]
  · have hisEmpty : base.toList.isEmpty = false := by simpa using hempty
    exact ⟨splitAt '/' base.toList, by simp [hisEmpty, hslash, splitAt_append_cons, hone], rfl⟩

/-- A name that is joined to a path is the last name of the joined path. -/
theorem lastName?_join : lastName? (Path.join base name) = some name := by
  obtain ⟨before, hsplit, -⟩ := exists_splitAt_join h base
  simp [lastName?, parts, hsplit, h.ne_empty, h.ne_here, h.ne_up]

/-- A name that is joined to a path is the file name of the joined path. -/
theorem fileName?_join : fileName? (Path.join base name) = some name := by
  obtain ⟨before, hsplit, -⟩ := exists_splitAt_join h base
  have hup : name.toList ≠ ['.', '.'] := fun heq => h.ne_up (String.toList_injective heq)
  simpa using fileName?_of_splitAt (isSilent_toList h) hup hsplit

/-- A name that is joined to a path is its last part, after the parts of the path, but for an
empty one at its end. -/
theorem exists_parts_join (hbase : base ≠ "") :
    ∃ before, parts (Path.join base name) = before ++ [name] ∧
      (parts base = before ∨ parts base = before ++ [""]) := by
  have hone : splitAt '/' name.toList = [name.toList] := splitAt_of_not_mem h.no_slash
  have hempty : base.toList.isEmpty = false := by simpa using hbase
  simp only [parts, Path.join, Path.joinChars, h.isAbsolute, String.toList_ofList, hempty]
  by_cases hslash : base.toList.getLast? = some '/'
  · obtain ⟨before, hbefore⟩ := List.getLast?_eq_some_iff.1 hslash
    exact ⟨(splitAt '/' before).map String.ofList,
      by simp [hbefore, splitAt_append_cons, hone],
      .inr (by simp [hbefore, splitAt_append_cons, splitAt])⟩
  · exact ⟨(splitAt '/' base.toList).map String.ofList,
      by simp [hslash, splitAt_append_cons, hone], .inl rfl⟩

/-- A name that is joined to a path is its last part, after the first parts of the path. -/
theorem exists_parts_join_eq_append :
    ∃ before rest, parts (Path.join base name) = before ++ [name] ∧
      parts base = before ++ rest := by
  by_cases hempty : base = ""
  · subst hempty
    refine ⟨[], parts "", ?_, rfl⟩
    simp [parts, Path.join, Path.joinChars, h.isAbsolute, splitAt_of_not_mem h.no_slash]
  · obtain ⟨before, hbefore, hparts | hparts⟩ := exists_parts_join h base hempty
    · exact ⟨before, [], hbefore, by simpa using hparts⟩
    · exact ⟨before, [""], hbefore, hparts⟩

/-- The way along a joined path is the way along some parts that say what the path before does, and
its target. -/
private theorem exists_stages_join (cwd : Location) :
    ∃ before, stages cwd (Path.join base name) =
        (before.map String.ofList).scanl follow (start cwd base) ++
          [target cwd (Path.join base name)] ∧
      loud before = loud (splitAt '/' base.toList) := by
  obtain ⟨before, hsplit, hloud⟩ := exists_splitAt_join h base
  refine ⟨before, ?_, hloud⟩
  rw [stages, target, parts, hsplit, start_join h, List.map_append, List.scanl_append]
  simp

/-- The way to a file is the way to its directory and one step more. -/
theorem mem_dropLast_stages_join {cwd stage : Location} :
    stage ∈ (stages cwd (Path.join base name)).dropLast ↔ stage ∈ stages cwd base := by
  obtain ⟨before, hstages, hloud⟩ := exists_stages_join h base cwd
  rw [hstages, List.dropLast_concat, mem_scanl_loud, hloud, mem_stages_iff, steps]

/-- On the way to a file are the way to its directory and the place of the file. -/
theorem mem_stages_join {cwd stage : Location} :
    stage ∈ stages cwd (Path.join base name) ↔
      stage ∈ stages cwd base ∨ stage = target cwd (Path.join base name) := by
  obtain ⟨before, hstages, hloud⟩ := exists_stages_join h base cwd
  rw [hstages, List.mem_append, List.mem_singleton, mem_scanl_loud, hloud, mem_stages_iff, steps]

/-- The parent of a path that a name is joined to starts where the path does and leads the same
way. It need not be spelled as the path is. -/
theorem exists_parent?_join :
    ∃ parent, Path.parent? (Path.join base name) = some parent ∧
      (∀ cwd, start cwd parent = start cwd base) ∧
      ∀ cwd stage, stage ∈ stages cwd parent ↔ stage ∈ stages cwd base := by
  obtain ⟨before, hsplit, hloud⟩ := exists_splitAt_join h base
  have hsilent := isSilent_toList h
  obtain ⟨rest, hrest, hsteps, hleads⟩ := exists_split_eq_append hsilent hsplit
  obtain ⟨habsolute, hparent⟩ := hleads (dropSilentEnd rest) (isPrefix_dropSilentEnd rest)
  have hchars : parentChars (Path.join base name).toList =
      some ((split (Path.join base name).toList).1 ++ joinWith '/' (dropSilentEnd rest)) := by
    unfold parentChars
    dsimp only
    rw [hrest, List.reverse_append, List.reverse_singleton, List.singleton_append,
      List.dropWhile_cons_of_neg (by simp [hsilent])]
    simp
  obtain ⟨parent, hfound, hlist⟩ : ∃ parent, Path.parent? (Path.join base name) = some parent ∧
      parent.toList = (split (Path.join base name).toList).1 ++ joinWith '/' (dropSilentEnd rest) :=
    ⟨_, by rw [Path.parent?, hchars, Option.map_some], String.toList_ofList⟩
  have hstart (cwd : Location) : start cwd parent = start cwd base := by
    rw [← start_join h cwd base, start, start, hlist, habsolute]
  have hsame : steps parent = steps base := by
    rw [steps, hlist, hparent, loud_dropSilentEnd, hsteps, hloud, steps]
  refine ⟨parent, hfound, hstart, fun cwd stage => ?_⟩
  rw [mem_stages_iff, hsame, hstart, ← mem_stages_iff]

end Join

end SnippetCheck.Files

open SnippetCheck.Files in
/-- Writing a text to a file of some name keeps what making directories keeps on the way to the
directory of the file, and what writing the file keeps. -/
theorem SnippetCheck.Action.Keeps.writeText_join {holds : Workspace → Prop}
    {base name content : String} (hname : IsName name)
    (hmake : ∀ parent, (∀ cwd stage, stage ∈ stages cwd parent ↔ stage ∈ stages cwd base) →
      ∀ start, holds start →
        holds { start with files := (start.files.makeDirectories start.cwd parent).2 })
    (hwrite : ∀ start files, holds start →
      start.files.write start.cwd (Path.join base name) content.toUTF8 = .ok files →
        holds { start with files }) :
    (Action.writeText (Path.join base name) content).Keeps holds := by
  obtain ⟨parent, hparent, -, hstages⟩ := exists_parent?_join hname base
  refine .writeText (fun found hfound => ?_) hwrite
  obtain rfl : parent = found := Option.some.inj (hparent.symm.trans hfound)
  exact hmake parent hstages
