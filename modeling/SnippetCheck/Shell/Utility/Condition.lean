import SnippetCheck.Shell.Utility.Basic

/-!
# Conditions

The utility whose status tells whether a condition on texts, numbers or files holds.
-/

namespace SnippetCheck.Shell.Utility

open SnippetCheck.Files SnippetCheck.Text

/-- A condition that holds or does not, or what is wrong with it. -/
abbrev Truth := Except String Bool

/-- The integer that a text denotes. -/
def integer (text : String) : Except String Int :=
  match integer? text.toList with
  | some n => .ok n
  | none => .error s!"Illegal number: {text}"

/-- Whether two integers are related. -/
def related (relation : Int → Int → Bool) (left right : String) : Truth := do
  return relation (← integer left) (← integer right)

/-- Whether a file holds anything. -/
def isFilled (state : State) (path : String) : Bool :=
  match state.files.node state.cwd path with
  | .ok (.file bytes) => 0 < bytes.size
  | .ok .directory => true
  | .error _ => false

/-- The relation that a word stands for. -/
def relation? : String → Option (String → String → Truth)
  | "=" => some fun left right => .ok (left = right)
  | "!=" => some fun left right => .ok (left ≠ right)
  | "-eq" => some (related (· = ·))
  | "-ne" => some (related (· ≠ ·))
  | "-lt" => some (related (· < ·))
  | "-le" => some (related (· ≤ ·))
  | "-gt" => some (related (· > ·))
  | "-ge" => some (related (· ≥ ·))
  | _ => none

/-- The property of a text, or of the file at a path, that a word stands for. -/
def property? (state : State) : String → Option (String → Bool)
  | "-n" => some fun text => !text.isEmpty
  | "-z" => some String.isEmpty
  | "-e" | "-r" | "-w" => some fun path => state.files.isPresent state.cwd path
  | "-f" => some fun path => state.files.isFile state.cwd path
  | "-d" | "-x" => some fun path => state.files.isDirectory state.cwd path
  | "-s" => some fun path => isFilled state path
  | _ => none

/-- Whether the simple condition holds that words make up. -/
def simpleCondition (state : State) : List String → Truth
  | [] => .ok false
  | [text] => .ok !text.isEmpty
  | ["!", text] => .ok text.isEmpty
  | [word, text] =>
    match property? state word with
    | some property => .ok (property text)
    | none => .error s!"{word}: unexpected operator"
  | [left, word, right] =>
    match relation? word with
    | some relation => relation left right
    | none =>
      if left = "!" then (simpleCondition state [word, right]).map (!·)
      else .error s!"{left}: unexpected operator"
  | "!" :: words => (simpleCondition state words).map (!·)
  | word :: _ => .error s!"{word}: unexpected operator"

/-- Whether the condition holds that words make up. Conditions are joined by words, of which
the one for `and` binds tighter. -/
def condition (state : State) (words : List String) : Truth :=
  if words.length ≤ 3 then simpleCondition state words
  else do
    let parts ← (words.splitOn "-o").mapM fun part =>
      (part.splitOn "-a").mapM (simpleCondition state)
    return parts.any fun part => part.all id

/-- End with what a condition is worth. -/
def judge (name : String) (words : List String) (state : State) : State :=
  match condition state words with
  | .ok holds => state.withTruth holds
  | .error fault => (state.complain s!"sh: 1: {name}: {fault}").withStatus 2

/-- End with what a condition is worth. -/
def test : Utility :=
  judge "test"

/-- End with what a condition in brackets is worth. -/
def bracket : Utility := fun args state =>
  if args.getLast? = some "]" then judge "[" args.dropLast state
  else (state.complain "sh: 1: [: missing ]").withStatus 2

end SnippetCheck.Shell.Utility
