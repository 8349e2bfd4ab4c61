import SnippetCheck.Pattern.Property
import SnippetCheck.Pattern.Syntax
import SnippetCheck.Text.Decimal

/-!
# Reading Patterns

The written form of patterns: literals, escapes, classes with set operations, groups, flags
and repetitions. Reading goes from left to right; it fails on any text that is no pattern,
such as one with a reference to a group or a look at the surroundings of a match.

Every function that calls others on the rest of the pattern takes a bound on the depth of
such calls; `ofText?` starts with one that the length of the pattern always suffices for.
-/

namespace SnippetCheck.Pattern

open SnippetCheck.Text CharSet

/-- The switches in force at a place of a pattern. -/
structure Flags where
  /-- Letters match without regard to case. -/
  ignoreCase : Bool := false
  /-- Line ends are places that `^` and `$` match. -/
  multiLine : Bool := false
  /-- A dot matches line feeds too. -/
  dotMatchesNewline : Bool := false
  /-- Greedy and reluctant repetitions are exchanged. -/
  swapGreed : Bool := false
  /-- Classes and boundaries cover all scripts. -/
  unicode : Bool := true
  /-- Carriage returns end lines too. -/
  carriageReturns : Bool := false
  /-- Blanks and comments in the pattern are left out. -/
  verbose : Bool := false

/-- What is left of a pattern, with what was learned from the part that was read. -/
structure Reading where
  /-- The characters that are left. -/
  rest : List Char
  /-- The switches in force. -/
  flags : Flags := {}
  /-- How many groups were numbered. -/
  groups : Nat := 0
  /-- The names of groups. -/
  names : List (List Char) := []

/-- A reader of one part of a pattern. -/
abbrev Reader := StateT Reading Option

namespace Reader

/-- The part of a pattern after blanks and comments. `inComment` says that the text starts
inside a comment. -/
def dropSpace : Bool → List Char → List Char
  | _, [] => []
  | true, c :: s => dropSpace (c ≠ '\n') s
  | false, c :: s =>
    if isBlank c then dropSpace false s else if c = '#' then dropSpace true s else c :: s

/-- A text without its leading blanks and comments, where these are left out. -/
def spaced (flags : Flags) (s : List Char) : List Char :=
  if flags.verbose then dropSpace false s else s

/-- Leave out blanks and comments, where these are left out. -/
def skipSpace : Reader Unit :=
  modify fun state => { state with rest := spaced state.flags state.rest }

/-- The next character, which stays. -/
def peek : Reader (Option Char) := do
  return (← get).rest.head?

/-- The next character. -/
def next : Reader Char := do
  match (← get).rest with
  | [] => failure
  | c :: rest =>
    modify fun state => { state with rest }
    return c

/-- Take `word` if the rest starts with it. -/
def takeWord (word : List Char) : Reader Bool := do
  let rest := (← get).rest
  if word.isPrefixOf rest then
    modify fun state => { state with rest := rest.drop word.length }
    return true
  else return false

/-- Take `word`, with which the rest has to start. -/
def expect (word : List Char) : Reader Unit := do
  unless ← takeWord word do failure

/-- Take the longest run of characters that satisfy a test. -/
def takeRun (p : Char → Bool) : Reader (List Char) := do
  let rest := (← get).rest
  modify fun state => { state with rest := rest.dropWhile p }
  return rest.takeWhile p

/-- Take the longest run of characters that satisfy a test, leaving out the blanks after each
where these are left out. The bound is on the number of characters. -/
def takeSpacedRun (p : Char → Bool) : Nat → Reader (List Char)
  | 0 => return []
  | n + 1 => do
    match ← peek with
    | some c =>
      if p c then
        let _ ← next
        skipSpace
        return c :: (← takeSpacedRun p n)
      else return []
    | none => return []

/-- The number of characters that are left. -/
def remaining : Reader Nat := do
  return (← get).rest.length

end Reader

open Reader

/-- The word characters and digits of ASCII. -/
def asciiWord : CharSet := table [(0x30, 0x39), (0x41, 0x5a), (0x5f, 0x5f), (0x61, 0x7a)]

/-- The decimal digits of ASCII. -/
def asciiDecimal : CharSet := range 0x30 0x39

/-- The blanks of ASCII. -/
def asciiBlank : CharSet := table [(0x09, 0x0d), (0x20, 0x20)]

/-- One character, class or condition, before the switches in force are applied to it. -/
inductive Primitive where
  /-- A character. `byte` says that it was written as a byte. -/
  | literal (code : Nat) (byte : Bool)
  /-- A class that is complete. -/
  | set (members : CharSet)
  /-- A condition on a place. -/
  | place (condition : Place)

/-- The value of a hexadecimal digit. -/
def hexValue? (c : Char) : Option Nat :=
  if c.isDigit then some (c.toNat - 0x30)
  else if 'a' ≤ c ∧ c ≤ 'f' then some (c.toNat - 0x61 + 10)
  else if 'A' ≤ c ∧ c ≤ 'F' then some (c.toNat - 0x41 + 10)
  else none

/-- The number that hexadecimal digits denote. -/
def hexNumber? (digits : List Char) : Option Nat :=
  digits.foldlM (fun value c => (hexValue? c).map (16 * value + ·)) 0

/-- A code point that is a character. -/
def character? (code : Nat) : Option Nat :=
  if code.isValidChar then some code else none

/-- The digits of an escape that has a fixed number of them. -/
def fixedDigits : Nat → Reader (List Char)
  | 0 => return []
  | n + 1 => do
    skipSpace
    let c ← next
    return c :: (← fixedDigits n)

/-- An escape by number, after its letter. -/
def hexEscape (width : Nat) : Reader Primitive := do
  skipSpace
  if ← takeWord ['{'] then
    skipSpace
    let digits ← takeSpacedRun (· ≠ '}') (← remaining)
    expect ['}']
    if digits.isEmpty then failure
    let code ← hexNumber? digits
    return .literal (← character? code) false
  else
    let code ← hexNumber? (← fixedDigits width)
    return .literal (← character? code) (width = 2)

/-- The first place of `word` in a text, as what stands before and after it. -/
def cutAt? (word : List Char) : List Char → Option (List Char × List Char)
  | [] => none
  | c :: s =>
    if word.isPrefixOf (c :: s) then some ([], (c :: s).drop word.length)
    else (cutAt? word s).map fun (before, after) => (c :: before, after)

/-- A set made independent of case, where case is ignored. -/
def foldCase (flags : Flags) (set : CharSet) : CharSet :=
  if !flags.ignoreCase then set
  else if flags.unicode then .folded set
  else .union set (.inter (range 0 0x7f) (.folded set))

/-- A class by the name of a property, after its letter. -/
def propertyEscape (negated : Bool) : Reader Primitive := do
  let flags := (← get).flags
  skipSpace
  let set ← do
    if ← takeWord ['{'] then
      skipSpace
      let name ← takeSpacedRun (· ≠ '}') (← remaining)
      expect ['}']
      match cutAt? ['!', '='] name with
      -- `!=` is looked for first, since a lone `=` would be found inside it
      | some (key, value) => (Property.valued? key value).map complement
      | none =>
        match (cutAt? [':'] name).or (cutAt? ['='] name) with
        | some (key, value) => Property.valued? key value
        | none => Property.named? name
    else
      let c ← next
      if c = '\\' then failure
      skipSpace
      Property.named? [c]
  unless flags.unicode do failure
  let set := foldCase flags set
  return .set (if negated then set.complement else set)

/-- A class with a letter of its own. Without all scripts, the complement of such a class
holds characters that are no ASCII, and is refused. -/
def letterClass (all ascii : CharSet) (negated : Bool) : Reader Primitive := do
  if (← get).flags.unicode then return .set (if negated then all.complement else all)
  else if negated then failure
  else return .set ascii

/-- The word characters in force. -/
def wordSet (flags : Flags) : CharSet :=
  if flags.unicode then .word else asciiWord

/-- Whether a character may be written in the name of a kind of boundary. -/
def isBoundaryChar (c : Char) : Bool :=
  c.isAlpha || c = '-'

/-- A word boundary, after its letter. A name in braces selects a kind of boundary. -/
def boundary : Reader Primitive := do
  let state ← get
  let words := wordSet state.flags
  match state.rest with
  | '{' :: rest =>
    set { state with rest := spaced state.flags rest }
    match ← peek with
    | none => failure
    | some c =>
      if isBoundaryChar c then
        let name ← takeSpacedRun isBoundaryChar (← remaining)
        expect ['}']
        match String.ofList name with
        | "start" => return .place (.wordStart words)
        | "end" => return .place (.wordEnd words)
        | "start-half" => return .place (.wordStartHalf words)
        | "end-half" => return .place (.wordEndHalf words)
        | _ => failure
      else
        -- the brace opens a repetition, so nothing of it is taken here
        set state
        return .place (.wordBoundary words)
  | _ => return .place (.wordBoundary words)

/-- Whether a character stands for itself when it is escaped. -/
def isEscapable (c : Char) : Bool :=
  c.toNat < 0x80 && !c.isAlphanum && c != '<' && c != '>'

/-- What an escape stands for, after its backslash. -/
def escape : Reader Primitive := do
  let c ← next
  let words := wordSet (← get).flags
  match c with
  | 'x' => hexEscape 2
  | 'u' => hexEscape 4
  | 'U' => hexEscape 8
  | 'p' => propertyEscape false
  | 'P' => propertyEscape true
  | 'd' => letterClass .decimal asciiDecimal false
  | 'D' => letterClass .decimal asciiDecimal true
  | 's' => letterClass .blank asciiBlank false
  | 'S' => letterClass .blank asciiBlank true
  | 'w' => letterClass .word asciiWord false
  | 'W' => letterClass .word asciiWord true
  | 'a' => return .literal 0x07 false
  | 'f' => return .literal 0x0c false
  | 't' => return .literal 0x09 false
  | 'n' => return .literal 0x0a false
  | 'r' => return .literal 0x0d false
  | 'v' => return .literal 0x0b false
  | 'A' => return .place .textStart
  | 'z' => return .place .textEnd
  | 'b' => boundary
  | 'B' => return .place (.noWordBoundary words)
  | '<' => return .place (.wordStart words)
  | '>' => return .place (.wordEnd words)
  | c => if isEscapable c then return .literal c.toNat false else failure

/-- The set of one character in a class. Without all scripts it has to be ASCII. -/
def literalInClass (code : Nat) : Reader CharSet := do
  if (← get).flags.unicode || code < 0x80 then return range code code else failure

/-- The classes that are named in brackets and colons. -/
def namedClass? : String → Option CharSet
  | "alnum" => some (table [(0x30, 0x39), (0x41, 0x5a), (0x61, 0x7a)])
  | "alpha" => some (table [(0x41, 0x5a), (0x61, 0x7a)])
  | "ascii" => some (range 0 0x7f)
  | "blank" => some (table [(0x09, 0x09), (0x20, 0x20)])
  | "cntrl" => some (table [(0, 0x1f), (0x7f, 0x7f)])
  | "digit" => some asciiDecimal
  | "graph" => some (range 0x21 0x7e)
  | "lower" => some (range 0x61 0x7a)
  | "print" => some (range 0x20 0x7e)
  | "punct" => some (table [(0x21, 0x2f), (0x3a, 0x40), (0x5b, 0x60), (0x7b, 0x7e)])
  | "space" => some asciiBlank
  | "upper" => some (range 0x41 0x5a)
  | "word" => some asciiWord
  | "xdigit" => some (table [(0x30, 0x39), (0x41, 0x46), (0x61, 0x66)])
  | _ => none

/-- A class named in brackets and colons at the front of a text, and what follows it. -/
def bracketName? (s : List Char) : Option (CharSet × List Char) :=
  match s with
  | '[' :: ':' :: s =>
    let (negated, s) := match s with
      | '^' :: s => (true, s)
      | s => (false, s)
    match s.dropWhile (· ≠ ':') with
    | ':' :: ']' :: rest =>
      (namedClass? (String.ofList (s.takeWhile (· ≠ ':')))).map fun set =>
        (if negated then set.complement else set, rest)
    | _ => none
  | _ => none

/-- One item of a class: an escape, or a character that stands for itself. -/
def classItem : Reader Primitive := do
  let c ← next
  if c = '\\' then escape else return .literal c.toNat false

/-- An item of a class that is no end of a range. -/
def itemSet : Primitive → Reader CharSet
  | .literal code _ => literalInClass code
  | .set members => return members
  | .place _ => failure

/-- A range of a class, or one item. -/
def classRange : Reader CharSet := do
  let first ← classItem
  skipSpace
  let state ← get
  match state.rest with
  | [] => failure
  | '-' :: rest =>
    -- in front of the closing bracket a hyphen stands for itself; two are an operation
    let after := (spaced state.flags rest).head?
    if after = some ']' || after = some '-' then itemSet first
    else
      set { state with rest := spaced state.flags rest }
      match first, ← classItem with
      | .literal a _, .literal b _ =>
        let _ ← literalInClass a
        let _ ← literalInClass b
        if a ≤ b then return range a b else failure
      | _, _ => failure
  | _ => itemSet first

/-- Something read, and how deep its parts are nested. -/
structure Nested (α : Type) where
  /-- What was read. -/
  value : α
  /-- How many parts are around the innermost one. -/
  depth : Nat := 0

/-- The depth of several parts side by side. A part alone is not nested in anything. -/
def depthAround (count : Nat) (depths : List Nat) : Nat :=
  depths.foldl max 0 + if count ≤ 1 then 0 else 1

/-- The operations on the sets of a class. -/
inductive SetOperation where
  | intersection
  | difference
  | symmetricDifference

/-- The result of an operation on two sets. -/
def SetOperation.apply (operation : SetOperation) (a b : CharSet) : CharSet :=
  match operation with
  | .intersection => .inter a b
  | .difference => .diff a b
  | .symmetricDifference => symmDiff a b

/-- The set of the items after the last operation of a class, combined with what stands
before that operation. -/
def combine (flags : Flags) (pending : Option (SetOperation × Nested CharSet))
    (members : List (Nested CharSet)) : Nested CharSet :=
  let right := unions (members.map Nested.value).reverse
  let depth := depthAround members.length (members.map Nested.depth)
  match pending with
  | some (operation, left) =>
    { value := operation.apply (foldCase flags left.value) (foldCase flags right)
      depth := max left.depth depth + 1 }
  | none => { value := right, depth }

/-- The hyphens that start a class, which stand for themselves. -/
def leadingHyphens : Nat → Reader (List CharSet)
  | 0 => return []
  | n + 1 => do
    if ← takeWord ['-'] then
      skipSpace
      return single '-' :: (← leadingHyphens n)
    else return []

mutual

/-- A class, at its opening bracket. -/
def bracketed : Nat → Reader (Nested CharSet)
  | 0 => failure
  | n + 1 => do
    expect ['[']
    skipSpace
    let negated ← takeWord ['^']
    if negated then skipSpace
    let hyphens ← leadingHyphens (← remaining)
    -- a closing bracket that comes first stands for itself
    let start ← do
      if hyphens.isEmpty && (← takeWord [']']) then
        skipSpace
        pure [single ']']
      else pure hyphens.reverse
    let { value, depth } ← classMembers n none (start.map fun value => { value })
    let flags := (← get).flags
    let set := foldCase flags value
    if negated then
      if flags.unicode then return { value := set.complement, depth := depth + 1 } else failure
    else return { value := set, depth := depth + 1 }

/-- The items of a class up to its closing bracket. -/
def classMembers : Nat → Option (SetOperation × Nested CharSet) → List (Nested CharSet) →
    Reader (Nested CharSet)
  | 0, _, _ => failure
  | n + 1, pending, members => do
    skipSpace
    let state ← get
    let continueWith (operation : SetOperation) (rest : List Char) :
        Reader (Nested CharSet) := do
      set { state with rest }
      classMembers n (some (operation, combine state.flags pending members)) []
    match state.rest with
    | [] => failure
    | '[' :: _ =>
      match bracketName? state.rest with
      | some (named, rest) =>
        set { state with rest }
        classMembers n pending ({ value := named } :: members)
      | none =>
        let nested ← bracketed n
        classMembers n pending (nested :: members)
    | ']' :: rest =>
      set { state with rest }
      return combine state.flags pending members
    | '&' :: '&' :: rest => continueWith .intersection rest
    | '-' :: '-' :: rest => continueWith .difference rest
    | '~' :: '~' :: rest => continueWith .symmetricDifference rest
    | _ =>
      let member ← classRange
      classMembers n pending ({ value := member } :: members)

end

/-- The number of a bound of a repetition, with the blanks around it. -/
def boundNumber : Reader (Option Nat) := do
  let _ ← takeRun isBlank
  let digits ← takeSpacedRun Char.isDigit (← remaining)
  let _ ← takeRun isBlank
  if digits.isEmpty then return none
  let value := digits.foldl (fun value c => 10 * value + (c.toNat - 0x30)) 0
  if value < limit32 then return some value else failure

/-- The bounds of a repetition, after the opening brace. -/
def bounds : Reader (Nat × Option Nat) := do
  skipSpace
  let least ← boundNumber
  let result ← do
    if ← takeWord [','] then
      skipSpace
      let least ← least
      if (← peek) = some '}' then pure (least, none)
      else
        let most ← (← boundNumber)
        pure (least, some most)
    else
      let least ← least
      pure (least, some least)
  expect ['}']
  match result with
  | (least, some most) => if least ≤ most then return result else failure
  | _ => return result

/-- The pattern of a literal, class or condition under the switches in force. -/
def primitiveNode : Primitive → Reader Node
  | .literal code byte => do
    let flags := (← get).flags
    if !flags.unicode && byte && 0x80 ≤ code then failure
    return .char (foldCase flags (range code code))
  | .set members => return .char members
  | .place condition => return .place condition

/-- The pattern of a dot. -/
def dotNode : Reader Node := do
  let flags := (← get).flags
  unless flags.unicode do failure
  if flags.dotMatchesNewline then return .char CharSet.any
  else if flags.carriageReturns then
    return .char (.diff CharSet.any (.union (single '\n') (single '\r')))
  else return .char (.diff CharSet.any (single '\n'))

/-- The switch that a letter stands for, set to a value. -/
def setFlag (letter : Char) (value : Bool) (flags : Flags) : Option Flags :=
  match letter with
  | 'i' => some { flags with ignoreCase := value }
  | 'm' => some { flags with multiLine := value }
  | 's' => some { flags with dotMatchesNewline := value }
  | 'U' => some { flags with swapGreed := value }
  | 'u' => some { flags with unicode := value }
  | 'R' => some { flags with carriageReturns := value }
  | 'x' => some { flags with verbose := value }
  | _ => none

/-- The switches that letters set, those after a hyphen being switched off. A letter may stand
only once, and a letter has to follow the hyphen. -/
def applyFlags : List Char → Bool → List Char → Flags → Option Flags
  | [], _, _, flags => some flags
  | '-' :: letters, value, seen, flags =>
    if value && !letters.isEmpty then applyFlags letters false seen flags else none
  | letter :: letters, value, seen, flags =>
    if seen.contains letter then none
    else (setFlag letter value flags).bind (applyFlags letters value (letter :: seen))

/-- Alphabetic characters, which may start the name of a group. -/
def alphabetic : CharSet :=
  .union (Property.ofShortNames ["lu", "ll", "lt", "lm", "lo", "nl"])
    (table Category.otherAlphabetic)

/-- Whether a text names a group. -/
def isGroupName : List Char → Bool
  | [] => false
  | c :: name =>
    (c = '_' || alphabetic.mem c) && name.all fun c =>
      c = '_' || c = '.' || c = '[' || c = ']' || alphabetic.mem c ||
        (Property.ofShortNames ["nd", "nl", "no"]).mem c

/-- Number a group. -/
def newGroup : Reader Nat :=
  modifyGet fun state => (state.groups + 1, { state with groups := state.groups + 1 })

/-- The name of a group, up to the closing angle bracket, which no other group has. -/
def groupName : Reader Unit := do
  let name ← takeRun (· ≠ '>')
  expect ['>']
  unless isGroupName name && !(← get).names.contains name do failure
  modify fun state => { state with names := name :: state.names }

/-- What the start of a group makes of the group. -/
inductive GroupKind where
  /-- A group that remembers what it matches. -/
  | capture (index : Nat)
  /-- A group that only holds its body. -/
  | plain
  /-- No group, but a change of the switches. -/
  | flags

/-- How looks at the surroundings of a match would start. -/
def lookWords : List (List Char) :=
  ["?=".toList, "?!".toList, "?<=".toList, "?<!".toList]

/-- The start of a group, after the opening parenthesis. -/
def groupStart : Reader GroupKind := do
  skipSpace
  let rest := (← get).rest
  -- `?<=` and `?<!` would otherwise be read as the start of a name
  if lookWords.any fun word => word.isPrefixOf rest then failure
  if ← takeWord "?P<".toList then
    let index ← newGroup
    groupName
    return .capture index
  else if ← takeWord "?<".toList then
    let index ← newGroup
    groupName
    return .capture index
  else if ← takeWord ['?'] then
    let letters ← takeRun fun c => c != ':' && c != ')'
    let flags ← applyFlags letters true [] (← get).flags
    modify fun state => { state with flags }
    if ← takeWord [':'] then return .plain
    else
      -- switches for the rest of the surrounding group
      expect [')']
      if letters.isEmpty then failure
      return .flags
  else return .capture (← newGroup)

/-- Items in their order as one pattern. -/
def sequence : List Node → Node
  | [] => .empty
  | [item] => item
  | item :: items => .seq item (sequence items)

/-- Alternatives as one pattern. -/
def anyOf : List Node → Node
  | [] => .empty
  | [branch] => branch
  | branch :: branches => .alt branch (anyOf branches)

/-- The items of an alternative, latest first, as one pattern. A change of the switches is an
item too. -/
def inOrder (items : List (Option (Nested Node))) : Nested Node :=
  let parts := items.reverse.filterMap id
  { value := sequence (parts.map Nested.value)
    depth := depthAround items.length (parts.map Nested.depth) }

/-- The alternatives of a pattern or group as one pattern. -/
def oneOf (branches : List (Nested Node)) : Nested Node :=
  { value := anyOf (branches.map Nested.value)
    depth := depthAround branches.length (branches.map Nested.depth) }

/-- Whether a repetition is greedy, after its bounds. -/
def greediness : Reader Bool := do
  let reluctant ← takeWord ['?']
  return reluctant == (← get).flags.swapGreed

/-- Repeat the last item; there has to be one, and a change of the switches is none. -/
def repeatLast (least : Nat) (most : Option Nat) (items : List (Option (Nested Node))) :
    Reader (List (Option (Nested Node))) := do
  match items with
  | some item :: items =>
    let value := Node.repeated least most (← greediness) item.value
    return some { value, depth := item.depth + 1 } :: items
  | _ => failure

mutual

/-- Alternatives, up to the end of the pattern or of the group. -/
def alternatives : Nat → Reader (List (Nested Node))
  | 0 => failure
  | n + 1 => do
    let first ← items n []
    if ← takeWord ['|'] then return first :: (← alternatives n)
    else return [first]

/-- The items of one alternative, given those before them, latest first. -/
def items : Nat → List (Option (Nested Node)) → Reader (Nested Node)
  | 0, _ => failure
  | n + 1, before => do
    skipSpace
    let state ← get
    match state.rest with
    | [] | '|' :: _ | ')' :: _ => return inOrder before
    | '(' :: rest =>
      set { state with rest }
      match ← groupStart with
      | .flags => items n (none :: before)
      | .plain =>
        let body ← groupBody n state.flags
        items n (some body :: before)
      | .capture index =>
        let body ← groupBody n state.flags
        items n (some { body with value := .capture index body.value } :: before)
    | '[' :: _ =>
      let { value, depth } ← bracketed n
      items n (some { value := .char value, depth } :: before)
    | '?' :: rest =>
      set { state with rest }
      items n (← repeatLast 0 (some 1) before)
    | '*' :: rest =>
      set { state with rest }
      items n (← repeatLast 0 none before)
    | '+' :: rest =>
      set { state with rest }
      items n (← repeatLast 1 none before)
    | '{' :: rest =>
      set { state with rest }
      let (least, most) ← bounds
      skipSpace
      items n (← repeatLast least most before)
    | '.' :: rest =>
      set { state with rest }
      items n (some { value := ← dotNode } :: before)
    | '^' :: rest =>
      set { state with rest }
      let place := if state.flags.multiLine then .lineStart state.flags.carriageReturns
        else .textStart
      items n (some { value := .place place } :: before)
    | '$' :: rest =>
      set { state with rest }
      let place := if state.flags.multiLine then .lineEnd state.flags.carriageReturns
        else .textEnd
      items n (some { value := .place place } :: before)
    | '\\' :: rest =>
      set { state with rest }
      items n (some { value := ← primitiveNode (← escape) } :: before)
    | c :: rest =>
      set { state with rest }
      items n (some { value := ← primitiveNode (.literal c.toNat false) } :: before)

/-- The body of a group and its closing parenthesis. The switches in force outside come back
into force. -/
def groupBody : Nat → Flags → Reader (Nested Node)
  | 0, _ => failure
  | n + 1, outside => do
    let body := oneOf (← alternatives n)
    expect [')']
    modify fun state => { state with flags := outside }
    return { body with depth := body.depth + 1 }

end

/-- How much room a pattern takes once its repetitions are written out. -/
def Node.cost : Node → Nat
  | .empty | .place _ => 1
  | .char (.range _ _) => 1
  | .char _ => 200
  | .capture _ body => body.cost + 2
  | .seq first second => first.cost + second.cost
  | .alt first second => first.cost + second.cost + 1
  | .rep least most _ body => (max least (most.getD 1)) * (body.cost + 1) + 1

/-- The most room that a pattern may take. -/
def costLimit : Nat := 250000

/-- How deep the parts of a pattern may be nested. -/
def depthLimit : Nat := 250

/-- Read a pattern. -/
def ofText? (text : String) : Option Node :=
  let chars := text.toList
  match (alternatives (4 * chars.length + 8)).run { rest := chars } with
  | some (branches, state) =>
    let { value, depth } := oneOf branches
    if state.rest.isEmpty && depth ≤ depthLimit && value.cost ≤ costLimit then some value
    else none
  | none => none

end SnippetCheck.Pattern
