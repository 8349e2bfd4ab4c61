import SnippetCheck.Pattern.Syntax

/-!
# Programs Of Patterns

A pattern is run as a program whose instructions test one character, test a place, remember
a place, or try one instruction before another. Programs are laid out backwards: each part
is given the address to go on with.
-/

namespace SnippetCheck.Pattern

/-- One instruction. Every address is one in the same program. -/
inductive Instruction where
  /-- Take a character of a set. -/
  | char (set : CharSet) (next : Nat)
  /-- Go on if a condition holds here. -/
  | place (condition : Place) (next : Nat)
  /-- Remember this place under a number. -/
  | mark (slot : Nat) (next : Nat)
  /-- Try one address, and the other if that fails. -/
  | fork (first second : Nat)
  /-- The match is complete. -/
  | accept
  deriving Inhabited

/-- The instructions so far; addresses are places in the array. -/
abbrev Layout := StateM (Array Instruction)

namespace Layout

/-- Add an instruction. -/
def add (instruction : Instruction) : Layout Nat :=
  modifyGet fun code => (code.size, code.push instruction)

/-- Replace the instruction at an address. -/
def put (address : Nat) (instruction : Instruction) : Layout Unit :=
  modify fun code => code.setIfInBounds address instruction

/-- A choice between going on with a body and leaving it. -/
def choice (greedy : Bool) (body leave : Nat) : Instruction :=
  if greedy then .fork body leave else .fork leave body

/-- Lay out a part several times in a row. -/
def copies (lay : Nat → Layout Nat) : Nat → Nat → Layout Nat
  | 0, next => return next
  | n + 1, next => do copies lay n (← lay next)

/-- Lay out a part up to `n` times, each time after the last. -/
def upTo (lay : Nat → Layout Nat) (greedy : Bool) (leave : Nat) : Nat → Layout Nat
  | 0 => return leave
  | n + 1 => do
    let body ← lay (← upTo lay greedy leave n)
    add (choice greedy body leave)

/-- Lay out a part one or more times. -/
def oneOrMore (lay : Nat → Layout Nat) (greedy : Bool) (next : Nat) : Layout Nat := do
  let again ← add .accept
  let body ← lay again
  put again (choice greedy body next)
  return body

/-- Lay out a part any number of times. A part that may be empty runs once before it may be
left, and what it remembers counts. -/
def zeroOrMore (lay : Nat → Layout Nat) (mayBeEmpty greedy : Bool) (next : Nat) :
    Layout Nat := do
  if mayBeEmpty then
    let body ← oneOrMore lay greedy next
    add (choice greedy body next)
  else
    let again ← add .accept
    let body ← lay again
    put again (choice greedy body next)
    return again

end Layout

open Layout

/-- Lay out a pattern in front of an address. -/
def Node.lay : Node → Nat → Layout Nat
  | .empty, next => return next
  | .char set, next => add (.char set next)
  | .place condition, next => add (.place condition next)
  | .capture index body, next => do
    let close ← add (.mark (2 * index + 1) next)
    add (.mark (2 * index) (← body.lay close))
  -- the second part is laid out first, since the first one continues at its address
  | .seq first second, next => do first.lay (← second.lay next)
  | .alt first second, next => do
    let first ← first.lay next
    let second ← second.lay next
    add (.fork first second)
  | .rep 0 none greedy body, next => zeroOrMore body.lay (body.leastLength = 0) greedy next
  | .rep (least + 1) none greedy body, next => do
    copies body.lay least (← oneOrMore body.lay greedy next)
  | .rep least (some most) greedy body, next => do
    copies body.lay least (← upTo body.lay greedy next (most - least))

/-- A pattern ready to run. -/
structure Program where
  /-- The instructions. -/
  code : Array Instruction
  /-- Where to start. -/
  start : Nat
  /-- The number of groups, the whole match included. -/
  groups : Nat

/-- The program of a pattern. -/
def Node.program (node : Node) : Program :=
  let (start, code) := (node.lay 0).run #[.accept]
  { code, start, groups := node.lastGroup + 1 }

end SnippetCheck.Pattern
