import SnippetCheck.Pattern.Program
import SnippetCheck.Pattern.Reader

/-!
# Searching For Patterns

The match of a pattern in a text is the one that starts first, and among those that start
there, the one that the order of alternatives and the greediness of repetitions prefer. It
is found by trying the preferred instruction first and coming back to the other one on
failure. A place that an instruction has been tried at before is not tried again, which
bounds the search.
-/

namespace SnippetCheck.Pattern

open SnippetCheck.Text

/-- Where the groups of a match start and end; slot `2 * i` holds the start of group `i` and
the next slot its end. -/
abbrev Slots := Array (Option Nat)

/-- A match, by its groups, in places of a text. -/
structure Match where
  /-- Where the match starts. -/
  start : Nat
  /-- Where the match ends. -/
  stop : Nat
  /-- Where its groups start and end. -/
  slots : Slots

/-- The text between two places. -/
def slice (text : Array Char) (start stop : Nat) : List Char :=
  (text.extract start stop).toList

namespace Match

/-- What a group matched, unless it took no part in the match. -/
def group? (found : Match) (text : Array Char) (index : Nat) : Option (List Char) := do
  let start ← (found.slots[2 * index]?).join
  let stop ← (found.slots[2 * index + 1]?).join
  return slice text start stop

end Match

/-- Whether a condition holds at a place of a text. -/
def Place.holds (text : Array Char) (at' : Nat) (condition : Place) : Bool :=
  let before := if at' = 0 then none else text[at' - 1]?
  let after := text[at']?
  let isIn (set : CharSet) (c : Option Char) : Bool := (c.map fun c => set.mem c).getD false
  match condition with
  | .textStart => before.isNone
  | .textEnd => after.isNone
  | .lineStart returns => before.isNone || before = some '\n' ||
      (returns && before = some '\r' && after != some '\n')
  | .lineEnd returns =>
    if returns then after.isNone || after = some '\r' ||
      (after = some '\n' && before != some '\r')
    else after.isNone || after = some '\n'
  | .wordBoundary set => isIn set before != isIn set after
  | .noWordBoundary set => isIn set before == isIn set after
  | .wordStart set => !isIn set before && isIn set after
  | .wordEnd set => isIn set before && !isIn set after
  | .wordStartHalf set => !isIn set before
  | .wordEndHalf set => !isIn set after

/-- An instruction to be tried at a place, with what was remembered before. -/
structure Attempt where
  /-- The address of the instruction. -/
  address : Nat
  /-- The place in the text. -/
  place : Nat
  /-- The places remembered so far. -/
  slots : Slots

namespace Program

/-- Try attempts in order, the preferred ones first, until one completes a match. `tried` says
which instructions were tried at which places. The first argument bounds the attempts. -/
def attemptAll (program : Program) (text : Array Char) :
    Nat → List Attempt → Array Bool → Option (Nat × Slots) × Array Bool
  | 0, _, tried => (none, tried)
  | _, [], tried => (none, tried)
  | fuel + 1, attempt :: rest, tried =>
    let { address, place, slots } := attempt
    let key := place * program.code.size + address
    -- what failed here once fails again, whatever was remembered on the way
    if tried.getD key true then attemptAll program text fuel rest tried
    else
      let tried := tried.setIfInBounds key true
      match program.code[address]? with
      | none => attemptAll program text fuel rest tried
      | some .accept => (some (place, slots), tried)
      | some (.char set next) =>
        match text[place]? with
        | some c =>
          if set.mem c then
            attemptAll program text fuel (⟨next, place + 1, slots⟩ :: rest) tried
          else attemptAll program text fuel rest tried
        | none => attemptAll program text fuel rest tried
      | some (.place condition next) =>
        if condition.holds text place then
          attemptAll program text fuel (⟨next, place, slots⟩ :: rest) tried
        else attemptAll program text fuel rest tried
      | some (.mark slot next) =>
        let slots := slots.setIfInBounds slot (some place)
        attemptAll program text fuel (⟨next, place, slots⟩ :: rest) tried
      | some (.fork first second) =>
        -- the first branch is preferred: all it leads to is tried before the second
        attemptAll program text fuel (⟨first, place, slots⟩ :: ⟨second, place, slots⟩ :: rest) tried

/-- Try to match at each of the next `n` places from `at'` on. -/
def searchFrom (program : Program) (text : Array Char) (fuel : Nat) :
    Nat → Nat → Array Bool → Option Match
  | 0, _, _ => none
  | n + 1, at', tried =>
    let slots : Slots := Array.replicate (2 * program.groups) none
    match program.attemptAll text fuel [⟨program.start, at', slots⟩] tried with
    | (some (stop, slots), _) => some ⟨at', stop, slots⟩
    -- an instruction that failed at a place also fails there in a later match
    | (none, tried) => searchFrom program text fuel n (at' + 1) tried

/-- The first match that starts at a place or after it. -/
def find? (program : Program) (text : Array Char) (at' : Nat) : Option Match :=
  let states := (text.size + 1) * program.code.size
  program.searchFrom text (2 * states + 2) (text.size + 1 - at') at'
    (Array.replicate states false)

/-- Up to `n` successive matches from a place on. An empty match right after the last match,
which ended at `last`, is passed over. -/
def matchesFrom (program : Program) (text : Array Char) :
    Nat → Nat → Option Nat → List Match
  | 0, _, _ => []
  | n + 1, at', last =>
    let found := match program.find? text at' with
      | some found =>
        if found.start = found.stop && last = some found.stop then program.find? text (at' + 1)
        else some found
      | none => none
    match found with
    | some found => found :: matchesFrom program text n found.stop (some found.stop)
    | none => []

/-- The successive matches in a text. -/
def allMatches (program : Program) (text : Array Char) : List Match :=
  program.matchesFrom text (2 * text.size + 2) 0 none

end Program

namespace Node

/-- The groups of the first match in a text, the whole match first. -/
def firstGroups? (node : Node) (text : List Char) : Option (List (Option (List Char))) :=
  let program := node.program
  let chars := text.toArray
  (program.find? chars 0).map fun found =>
    (List.range program.groups).map fun index =>
      if index = 0 then some (slice chars found.start found.stop) else found.group? chars index

/-- The groups of every match in a text, the whole match first. -/
def allGroups (node : Node) (text : List Char) : List (List (Option (List Char))) :=
  let program := node.program
  let chars := text.toArray
  (program.allMatches chars).map fun found =>
    (List.range program.groups).map fun index =>
      if index = 0 then some (slice chars found.start found.stop) else found.group? chars index

/-- The parts of a text around matches, with what replaces each match. -/
def spliced (text : Array Char) (replacement : Match → List Char) :
    Nat → List Match → List Char
  | at', [] => slice text at' text.size
  | at', found :: rest =>
    slice text at' found.start ++ replacement found ++ spliced text replacement found.stop rest

/-- A text in which every match is replaced by what its first two groups matched. -/
def keepGroups (node : Node) (text : List Char) : List Char :=
  let program := node.program
  let chars := text.toArray
  spliced chars (fun found => ((found.group? chars 1).getD []) ++ ((found.group? chars 2).getD []))
    0 (program.allMatches chars)

/-- Whether a pattern has a group besides the whole match. -/
def hasGroup (node : Node) : Bool :=
  0 < node.lastGroup

end Node

end SnippetCheck.Pattern
