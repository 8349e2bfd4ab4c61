import SnippetCheck.Toml.Assembly
import SnippetCheck.Toml.Scalar

/-!
# Reading TOML

A TOML document is read statement by statement, and its statements are assembled to tables.
Places are counted in bytes. A byte order mark in front of the document is passed over.

Functions that call others on the rest of the document take a bound on the depth of such
calls; `ofText?` starts with one that the length of the document always suffices for.
-/

namespace SnippetCheck.Toml

/-- What is left of a document, and how many bytes were read. -/
structure Cursor where
  /-- The characters that are left. -/
  rest : List Char
  /-- The bytes before them. -/
  offset : Nat := 0

/-- A reader of one part of a document. -/
abbrev Reader := StateT Cursor Option

namespace Reader

/-- The length of a text in bytes. -/
def byteLength (s : List Char) : Nat :=
  s.foldl (fun n c => n + c.utf8Size) 0

/-- The next character, which stays. -/
def peek : Reader (Option Char) := do
  return (← get).rest.head?

/-- The next character. -/
def next : Reader Char := do
  match (← get).rest with
  | [] => failure
  | c :: rest =>
    modify fun cursor => ⟨rest, cursor.offset + c.utf8Size⟩
    return c

/-- Take the longest run of characters that satisfy a test. -/
def takeRun (p : Char → Bool) : Reader (List Char) := do
  let run := (← get).rest.takeWhile p
  modify fun cursor => ⟨cursor.rest.dropWhile p, cursor.offset + byteLength run⟩
  return run

/-- Take `word` if the rest starts with it. -/
def takeWord (word : List Char) : Reader Bool := do
  if word.isPrefixOf (← get).rest then
    modify fun cursor => ⟨cursor.rest.drop word.length, cursor.offset + byteLength word⟩
    return true
  else return false

/-- Take `word`, with which the rest has to start. -/
def expect (word : List Char) : Reader Unit := do
  unless ← takeWord word do failure

/-- The number of characters that are left. -/
def remaining : Reader Nat := do
  return (← get).rest.length

/-- Take spaces and tabs. -/
def skipSpace : Reader Unit := do
  let _ ← takeRun fun c => c = ' ' || c = '\t'

/-- Whether a character may stand in a comment or a string: no control character but the
tab. -/
def isPlain (c : Char) : Bool :=
  c = '\t' || (' ' ≤ c && c != '\x7f')

/-- Take a line end, if there is one. -/
def takeNewline : Reader Bool := do
  if ← takeWord ['\n'] then return true else takeWord ['\r', '\n']

/-- Take a comment, if there is one. -/
def skipComment : Reader Unit := do
  if ← takeWord ['#'] then
    let _ ← takeRun isPlain

/-- Take spaces, line ends and comments. -/
def skipLines : Nat → Reader Unit
  | 0 => return ()
  | n + 1 => do
    skipSpace
    skipComment
    if ← takeNewline then skipLines n

/-- The span of what was read since an offset. -/
def spanSince (start : Nat) : Reader Span := do
  return ⟨start, (← get).offset - start⟩

end Reader

open Reader

/-- The value of a hexadecimal digit. -/
def hexValue? (c : Char) : Option Nat :=
  if c.isDigit then some (c.toNat - 0x30)
  else if 'a' ≤ c ∧ c ≤ 'f' then some (c.toNat - 0x61 + 10)
  else if 'A' ≤ c ∧ c ≤ 'F' then some (c.toNat - 0x41 + 10)
  else none

/-- A number of hexadecimal digits, after the value of those before. -/
def hexDigits : Nat → Nat → Reader Nat
  | 0, value => return value
  | n + 1, value => do hexDigits n (16 * value + (← hexValue? (← next)))

/-- A character by its number, in so many digits. -/
def numbered (width : Nat) : Reader Char := do
  let code ← hexDigits width 0
  if code.isValidChar then return Char.ofNat code else failure

/-- The character that an escape stands for, after its backslash. -/
def escape : Reader Char := do
  match ← next with
  | 'b' => return '\x08'
  | 't' => return '\t'
  | 'n' => return '\n'
  | 'f' => return '\x0c'
  | 'r' => return '\r'
  | 'e' => return '\x1b'
  | '"' => return '"'
  | '\\' => return '\\'
  | 'x' => numbered 2
  | 'u' => numbered 4
  | 'U' => numbered 8
  | _ => failure

/-- The rest of a string of one line that knows escapes, after the characters given latest
first. -/
def basicRest : Nat → List Char → Reader (List Char)
  | 0, _ => failure
  | n + 1, before => do
    match ← next with
    | '"' => return before.reverse
    | '\\' => do basicRest n ((← escape) :: before)
    | c => if isPlain c then basicRest n (c :: before) else failure

/-- The rest of a string of one line without escapes. -/
def literalRest : Reader (List Char) := do
  let content ← takeRun fun c => isPlain c && c != '\''
  expect ['\'']
  return content

/-- Quotes inside a string of several lines, as the text they add and whether they end the
string. Up to two quotes may stand in front of the three that end it. -/
def quotes (quote : Char) : Reader (List Char × Bool) := do
  let run ← takeRun (· = quote)
  if run.length < 3 then return (run, false)
  else if run.length ≤ 5 then return (run.drop 3, true)
  else failure

/-- Whether a backslash ends its line: what follows it up to the line end is blank. -/
def continuesLine (rest : List Char) : Bool :=
  match rest.dropWhile fun c => c = ' ' || c = '\t' with
  | '\n' :: _ => true
  | '\r' :: '\n' :: _ => true
  | _ => false

/-- Take spaces and line ends. -/
def skipBlankLines : Nat → Reader Unit
  | 0 => return ()
  | n + 1 => do
    skipSpace
    if ← takeNewline then skipBlankLines n

/-- The rest of a string of several lines, after the characters given latest first. -/
def linesRest (quote : Char) (escapes : Bool) : Nat → List Char → Reader (List Char)
  | 0, _ => failure
  | n + 1, before => do
    match (← get).rest with
    | [] => failure
    | '\r' :: '\n' :: _ =>
      -- both characters of the line end belong to the string
      expect ['\r', '\n']
      linesRest quote escapes n ('\n' :: '\r' :: before)
    | c :: rest =>
      if c = quote then
        let (added, done) ← quotes quote
        let before := added.reverse ++ before
        if done then return before.reverse else linesRest quote escapes n before
      else if c = '\\' && escapes then
        expect ['\\']
        -- a backslash at the end of a line takes away the blanks up to the next text
        if continuesLine rest then
          skipBlankLines (← remaining)
          linesRest quote escapes n before
        else
          let escaped ← escape
          linesRest quote escapes n (escaped :: before)
      else if c = '\n' || isPlain c then
        let _ ← next
        linesRest quote escapes n (c :: before)
      else failure

/-- A string of one line. -/
def shortString : Reader (List Char) := do
  if ← takeWord ['"'] then basicRest (← remaining) []
  else
    expect ['\'']
    literalRest

/-- A string. A line end right after three opening quotes is left out. -/
def string : Reader (List Char) := do
  if ← takeWord ['"', '"', '"'] then
    let _ ← takeNewline
    linesRest '"' true ((← remaining) + 1) []
  else if ← takeWord ['\'', '\'', '\''] then
    let _ ← takeNewline
    linesRest '\'' false ((← remaining) + 1) []
  else shortString

/-- Whether a character may stand in a key without quotes. -/
def isBareKeyChar (c : Char) : Bool :=
  c.isAlphanum || c = '_' || c = '-'

/-- One key. -/
def simpleKey : Reader String := do
  match ← peek with
  | some '"' | some '\'' => return String.ofList (← shortString)
  | _ =>
    let key ← takeRun isBareKeyChar
    if key.isEmpty then failure else return String.ofList key

/-- Keys with dots between them. -/
def keys : Nat → Reader (List String)
  | 0 => failure
  | n + 1 => do
    let key ← simpleKey
    skipSpace
    if ← takeWord ['.'] then
      skipSpace
      return key :: (← keys n)
    else return [key]

/-- A boolean, number or time. A date may have a time after a space. -/
def scalar (start : Nat) : Reader Value := do
  let word ← takeRun Scalar.isScalarChar
  let rest := (← get).rest
  let more ← do
    if Scalar.afterDate? word = some [] && rest.head? = some ' ' &&
        ((rest.drop 1).head?.map Char.isDigit).getD false then
      expect [' ']
      pure (' ' :: (← takeRun Scalar.isScalarChar))
    else pure []
  if Scalar.isScalar (word ++ more) then return .scalar (← spanSince start) else failure

mutual

/-- A value. -/
def value : Nat → Reader Value
  | 0 => failure
  | n + 1 => do
    let start := (← get).offset
    match ← peek with
    | some '"' | some '\'' =>
      let content ← string
      return .text (← spanSince start) (String.ofList content)
    | some '[' =>
      let _ ← next
      let items ← arrayRest n
      return .array (← spanSince start) false items
    | some '{' =>
      let _ ← next
      let entries ← tableRest n []
      return .table .inlined entries
    | _ => scalar start

/-- The items of an array up to its closing bracket. -/
def arrayRest : Nat → Reader (List Value)
  | 0 => failure
  | n + 1 => do
    skipLines (← remaining)
    if ← takeWord [']'] then return []
    let item ← value n
    skipLines (← remaining)
    if ← takeWord [','] then return item :: (← arrayRest n)
    else
      expect [']']
      return [item]

/-- The entries of an inline table up to its closing brace, added to those before. -/
def tableRest : Nat → Entries → Reader Entries
  | 0, _ => failure
  | n + 1, entries => do
    skipLines (← remaining)
    if ← takeWord ['}'] then return entries
    let (keys, item) ← entry n
    -- a key that is there already ends the reading
    let (_, entries) ← addDotted keys item .inlined entries
    skipLines (← remaining)
    if ← takeWord [','] then tableRest n entries
    else
      expect ['}']
      return entries

/-- Keys with a value. -/
def entry : Nat → Reader (List String × Value)
  | 0 => failure
  | n + 1 => do
    let keys ← keys (← remaining)
    skipSpace
    expect ['=']
    skipSpace
    return (keys, ← value n)

end

/-- A header, after the brackets that open it. -/
def header (close : List Char) : Reader (List String) := do
  skipSpace
  let keys ← keys (← remaining)
  skipSpace
  expect close
  return keys

/-- One statement. -/
def statement (n : Nat) : Reader Statement := do
  let start := (← get).offset
  if ← takeWord ['[', '['] then
    let keys ← header [']', ']']
    return .item (← spanSince start) keys
  else if ← takeWord ['['] then
    return .table (← header [']'])
  else
    let (keys, value) ← entry n
    return .entry keys value

/-- The statements of a document. Each ends its line, but for a comment. -/
def statements : Nat → Reader (List Statement)
  | 0 => failure
  | n + 1 => do
    skipSpace
    match ← peek with
    | none => return []
    | some '#' | some '\n' | some '\r' =>
      skipComment
      if (← peek).isNone then return []
      if ← takeNewline then statements n else failure
    | some _ =>
      let statement ← statement n
      skipSpace
      skipComment
      if (← peek).isNone then return [statement]
      if ← takeNewline then return statement :: (← statements n) else failure

/-- A document without the byte order mark that may stand in front of it. -/
def start (text : String) : Cursor :=
  match text.toList with
  | '\ufeff' :: rest => ⟨rest, '\ufeff'.utf8Size⟩
  | rest => ⟨rest, 0⟩

/-- The entries of a document. -/
def ofText? (text : String) : Option Entries :=
  ((statements (3 * text.length + 3)).run (start text)).bind fun (statements, _) =>
    assemble statements

end SnippetCheck.Toml
