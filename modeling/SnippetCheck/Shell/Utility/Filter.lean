import SnippetCheck.Shell.Utility.Basic
import SnippetCheck.Text.Lines

/-!
# Filters

The utilities that write what files or the input hold, as it is or changed. A line ends in a
line feed, which the last line may lack.
-/

namespace SnippetCheck.Shell.Utility

open SnippetCheck.Files SnippetCheck.Text

/-! ## Whole files -/

/-- Write a file to the output. -/
def catFile (state : State) (path : String) : State :=
  match bytesAt state path with
  | .ok bytes => state.write 1 bytes
  | .error refusal => (state.complain s!"cat: {path}: {describe refusal}").withStatus 1

/-- Write files, or the input, to the output. -/
def cat : Utility := fun args state =>
  (if args.isEmpty then ["-"] else args).foldl catFile (state.withStatus 0)

/-- Write what a filter makes of a file or, if none is named, of the input. -/
def filtered (path : Option String) (complaint : String → String) (status : Nat)
    (filter : List UInt8 → List UInt8) (state : State) : State :=
  let path := path.getD "-"
  match bytesAt state path with
  | .ok bytes => (state.write 1 (filter bytes)).withStatus 0
  | .error refusal =>
    (state.complain s!"{complaint path}: {describe refusal}").withStatus status

/-! ## The first and the last lines -/

/-- Cut a text after some lines. -/
def cutLines : Nat → List UInt8 → List UInt8 × List UInt8
  | 0, bytes => ([], bytes)
  | n + 1, bytes =>
    let line := bytes.takeWhile (· ≠ 10)
    match bytes.drop line.length with
    | [] => (line, [])
    | _ :: rest =>
      let (before, after) := cutLines n rest
      (line ++ 10 :: before, after)

/-- How many lines a text has. -/
def countLines (bytes : List UInt8) : Nat :=
  bytes.count 10 + if bytes.isEmpty || bytes.getLast? = some 10 then 0 else 1

/-- The number of lines that arguments ask for, and the arguments behind it. -/
def lineCount (args : List String) : String × List String :=
  match args with
  | "-n" :: count :: args => (count, args)
  | arg :: args =>
    match arg.toList with
    | '-' :: 'n' :: count => (String.ofList count, args)
    | '-' :: c :: count =>
      if c.isDigit then (String.ofList (c :: count), args) else ("10", arg :: args)
    | _ => ("10", arg :: args)
  | [] => ("10", [])

/-- Write the first lines of a file. -/
def head : Utility := fun args state =>
  let (count, paths) := lineCount args
  filtered paths.head? (fun path => s!"head: cannot open '{path}' for reading") 1
    (fun bytes => (cutLines (count.toNat?.getD 10) bytes).1) state

/-- Write the last lines of a file, or those from a line on. -/
def tail : Utility := fun args state =>
  let (count, paths) := lineCount args
  filtered paths.head? (fun path => s!"tail: cannot open '{path}' for reading") 1 (fun bytes =>
    let left := match count.toList with
      | '+' :: digits => numberOf digits - 1
      | _ => countLines bytes - count.toNat?.getD 10
    (cutLines left bytes).2) state

/-! ## Sorting, counting and replacing -/

/-- The lines of a text, in order. Numbers are compared by their values if that is asked for. -/
def sortedLines (options : List String) (bytes : List UInt8) : List (List Char) :=
  let lines := readLines (readBytes bytes)
  let key := fun (line : List Char) => (integer? line).getD 0
  let ordered := fun (a b : List Char) =>
    if hasOption options 'n' && key a ≠ key b then decide (key a ≤ key b)
    else decide (String.ofList a ≤ String.ofList b)
  let lines := lines.mergeSort ordered
  let lines := if hasOption options 'u' then lines.eraseDups else lines
  if hasOption options 'r' then lines.reverse else lines

/-- Write the lines of a file in order. -/
def sort : Utility := fun args state =>
  filtered (operandsOf args).head? (fun path => s!"sort: cannot read: {path}") 2
    (fun bytes => (sortedLines (optionsOf args) bytes).flatMap fun line =>
      bytesOf (String.ofList line) ++ [10]) state

/-- How many lines, words or bytes a text has, as options ask for. -/
def countsOf (options : List String) (bytes : List UInt8) : List Nat :=
  let inWord := fun byte : UInt8 => 32 < byte
  let words := (bytes.zip (10 :: bytes)).countP fun (byte, before) => inWord byte && !inWord before
  let all := !(hasOption options 'l' || hasOption options 'w' || hasOption options 'c')
  (if all || hasOption options 'l' then [bytes.count 10] else []) ++
    (if all || hasOption options 'w' then [words] else []) ++
    if all || hasOption options 'c' then [bytes.length] else []

/-- Write how much a file holds. -/
def wc : Utility := fun args state =>
  let path := (operandsOf args).head?
  let name := (path.map fun path => " " ++ path).getD ""
  filtered path (fun path => s!"wc: {path}") 1 (fun bytes =>
    bytesOf (" ".intercalate ((countsOf (optionsOf args) bytes).map toString) ++ name ++ "\n"))
    state

/-- The characters of a set, in which a hyphen stands between the ends of a range. -/
def setMembers : List Char → List Char
  | '\\' :: 'n' :: s => '\n' :: setMembers s
  | '\\' :: 't' :: s => '\t' :: setMembers s
  | '\\' :: c :: s => c :: setMembers s
  | first :: '-' :: last :: s =>
    (List.range (last.toNat + 1 - first.toNat)).map (fun n => Char.ofNat (first.toNat + n)) ++
      setMembers s
  | c :: s => c :: setMembers s
  | [] => []

/-- A character with the one that stands in its place. The last one of the second set stands
for what is missing in it. -/
def replaced (members others : List Char) (c : Char) : Char :=
  match members.idxOf? c with
  | some i => others.getD i (others.getLastD c)
  | none => c

/-- Write the input with the characters of one set replaced by those of another, or left out. -/
def tr : Utility := fun args state =>
  let sets := (operandsOf args).map fun set => setMembers set.toList
  let members := sets.headD []
  let filter := if hasOption (optionsOf args) 'd' then List.filter fun c => !members.contains c
    else List.map (replaced members (sets[1]?.getD []))
  filtered none id 1 (fun bytes => bytesOf (String.ofList (filter (readBytes bytes)))) state

end SnippetCheck.Shell.Utility
