import SnippetCheck.Files.Access

/-!
# Globs

A glob is a pattern of the shell: a star stands for any text, a question mark for any
character, and brackets for one character of a set. Quoted characters stand for themselves.
As a path, a glob leads to the files and directories whose names its parts stand for.
-/

namespace SnippetCheck.Shell

open SnippetCheck.Files

/-- A character of a word, and whether it was quoted. -/
abbrev MarkedChar := Char × Bool

/-- A part of a glob. -/
inductive GlobItem where
  /-- This character. -/
  | char (c : Char)
  /-- Any character. -/
  | any
  /-- Any text. -/
  | star
  /-- One character in the ranges, or one that is in none of them. -/
  | set (negated : Bool) (ranges : List (Char × Char))
  deriving DecidableEq, Repr

/-- The ranges of a set that is written between brackets. -/
def rangesOf : List Char → List (Char × Char)
  | first :: '-' :: last :: s => (first, last) :: rangesOf s
  | c :: s => (c, c) :: rangesOf s
  | [] => []

/-- The content of a set and what follows its closing bracket, which cannot come first. -/
def setContent? : List MarkedChar → Option (List Char × List MarkedChar)
  | [] => none
  | (c, _) :: s =>
    match s.dropWhile fun mark => mark.1 ≠ ']' with
    | _ :: rest => some (c :: (s.takeWhile fun mark => mark.1 ≠ ']').map Prod.fst, rest)
    | [] => none

/-- The set after an opening bracket, and what follows it. -/
def set? (s : List MarkedChar) : Option (GlobItem × List MarkedChar) :=
  match s with
  | ('!', false) :: rest | ('^', false) :: rest =>
    (setContent? rest).map fun (content, rest) => (.set true (rangesOf content), rest)
  | s => (setContent? s).map fun (content, rest) => (.set false (rangesOf content), rest)

/-- The content of a set takes up characters. -/
theorem length_lt_of_setContent? {s rest : List MarkedChar} {content : List Char}
    (h : setContent? s = some (content, rest)) : rest.length < s.length := by
  cases s with
  | nil => simp [setContent?] at h
  | cons mark s =>
    obtain ⟨c, quoted⟩ := mark
    have hlen := (List.dropWhile_suffix (l := s) fun mark => mark.1 ≠ ']').length_le
    simp only [setContent?] at h
    split at h
    next first rest' heq =>
      simp only [Option.some.injEq, Prod.mk.injEq] at h
      obtain ⟨-, rfl⟩ := h
      rw [heq] at hlen
      simp only [List.length_cons] at hlen ⊢
      omega
    next => cases h

/-- A set is never empty: what follows it is shorter. -/
theorem length_lt_of_set? {s rest : List MarkedChar} {found : GlobItem}
    (h : set? s = some (found, rest)) : rest.length < s.length := by
  simp only [set?] at h
  split at h <;>
    obtain ⟨⟨content, rest'⟩, hs, heq⟩ := Option.map_eq_some_iff.1 h <;>
    simp only [Prod.mk.injEq] at heq <;>
    obtain ⟨-, rfl⟩ := heq <;>
    have := length_lt_of_setContent? hs <;>
    simp_all <;> omega

/-- The glob that the characters of a word make up. -/
def globOf (s : List MarkedChar) : List GlobItem :=
  match s with
  | [] => []
  | ('*', false) :: s => .star :: globOf s
  | ('?', false) :: s => .any :: globOf s
  | ('[', false) :: s =>
    match _h : set? s with
    | some (found, rest) => found :: globOf rest
    | none => .char '[' :: globOf s
  | (c, _) :: s => .char c :: globOf s
termination_by s.length
decreasing_by
  all_goals simp_wf
  have := length_lt_of_set? ‹_›
  omega

/-- Whether a character is one that an item stands for. -/
def GlobItem.admits : GlobItem → Char → Bool
  | .char d, c => c = d
  | .any, _ => true
  | .star, _ => false
  | .set negated ranges, c =>
    (ranges.any fun (first, last) => first ≤ c && c ≤ last) != negated

/-- Whether a glob stands for a text. -/
def globMatches (glob : List GlobItem) (s : List Char) : Bool :=
  match glob, s with
  | [], [] => true
  | [], _ :: _ => false
  | .star :: glob, [] => globMatches glob []
  | .star :: glob, c :: s => globMatches glob (c :: s) || globMatches (.star :: glob) s
  | _ :: _, [] => false
  | item :: glob, c :: s => item.admits c && globMatches glob s
termination_by (glob.length, s.length)

/-- A text without the part in front that a glob stands for: the shortest, or the longest. -/
def dropFront (longest : Bool) (glob : List GlobItem) (s : List Char) : List Char :=
  let lengths := List.range (s.length + 1)
  let found := (if longest then lengths.reverse else lengths).find? fun n =>
    globMatches glob (s.take n)
  s.drop (found.getD 0)

/-- A text without the part at its end that a glob stands for: the shortest, or the longest. -/
def dropBack (longest : Bool) (glob : List GlobItem) (s : List Char) : List Char :=
  let lengths := List.range (s.length + 1)
  let found := (if longest then lengths else lengths.reverse).find? fun n =>
    globMatches glob (s.drop n)
  s.take (found.getD s.length)

/-- The one character that an item stands for, if it stands for no other. -/
def GlobItem.char? : GlobItem → Option Char
  | .char c => some c
  | _ => none

/-- The text that a glob is, if it stands for no other. -/
def literal? (glob : List GlobItem) : Option String :=
  (glob.mapM GlobItem.char?).map String.ofList

/-- The globs between the slashes of a glob; there are none if it stands for one text only. -/
def globParts (s : List MarkedChar) : List (List GlobItem) :=
  let items := globOf s
  if (literal? items).isSome then [] else items.splitOn (.char '/')

/-- Whether a glob stands for a name. A leading dot has to be written. -/
def matchesName (glob : List GlobItem) (name : String) : Bool :=
  globMatches glob name.toList && (!name.startsWith "." || glob.head? = some (.char '.'))

/-- The paths that parts lead to from a location, in order. The text is the path so far. -/
def pathsBelow (files : Tree) (location : Location) (text : String) :
    List (List GlobItem) → List String
  | [] => if (files.get? location).isSome then [text] else []
  | part :: parts =>
    let names := match literal? part with
      | some name => [name]
      | none => ((files.names location).filter (matchesName part)).mergeSort fun a b => a ≤ b
    let ending := if parts.isEmpty then "" else "/"
    names.flatMap fun name =>
      match files.enter location name with
      | .ok next => pathsBelow files next (text ++ name ++ ending) parts
      | .error _ => []

end SnippetCheck.Shell
