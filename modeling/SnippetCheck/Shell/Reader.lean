import SnippetCheck.Shell.Token

/-!
# Reading Scripts

The script that tokens make up. Certain words have a meaning of their own where a command may
begin.

Functions that call others on the rest of the tokens take a bound on the depth of such calls;
`Script.ofText?` starts with one that the number of tokens always suffices for.
-/

namespace SnippetCheck.Shell

/-- Whether a token is a word that stands in the script as it is. -/
def Token.isPlain (text : String) : Token → Bool
  | .word pieces => pieces.plain? = some text
  | _ => false

/-- Whether a token is an operator. -/
def Token.isOperator (text : String) : Token → Bool
  | .operator other => other = text
  | _ => false

/-- Whether a token is a line end. -/
def Token.isNewline : Token → Bool
  | .newline => true
  | _ => false

/-- What follows a token that satisfies a condition. -/
def expect? (condition : Token → Bool) : List Token → Option (List Token)
  | [] => none
  | token :: tokens => if condition token then some tokens else none

/-- The tokens after line ends. -/
def skipLines (tokens : List Token) : List Token :=
  tokens.dropWhile Token.isNewline

/-- The tokens after line ends and semicolons. -/
def skipSeparators (tokens : List Token) : List Token :=
  tokens.dropWhile fun token => token.isNewline || token.isOperator ";"

/-- The words that end a list of commands. -/
def closers : List String :=
  ["then", "else", "elif", "fi", "do", "done", "esac", "\x7d"]

/-- Whether a token ends a list of commands. -/
def Token.isCloser (token : Token) : Bool :=
  closers.any token.isPlain || token.isOperator ")" || token.isOperator ";;"

/-- The assignment that a word is, if it is one. -/
def assignment? (word : Word) : Option (String × Word) :=
  let name := word.takeWhile fun
    | .char c false => isNameChar c
    | _ => false
  match Word.plain? name, word.drop name.length with
  | some text, .char '=' false :: value =>
    if (text.toList.head?.map isNameStart).getD false then some (text, value) else none
  | _, _ => none

/-- The kind of redirection that an operator stands for, and the stream it is about. -/
def redirection? : String → Option (RedirectionKind × Nat)
  | ">" => some (.write, 1)
  | ">>" => some (.append, 1)
  | ">&" => some (.copy, 1)
  | "<" => some (.read, 0)
  | "<&" => some (.copy, 0)
  | _ => none

/-- The redirection at the front of tokens, and what follows it. -/
def redirectionAt? : List Token → Option (Redirection × List Token)
  | .stream n :: .operator text :: .word target :: tokens =>
    (redirection? text).map fun (kind, _) => (⟨n, kind, target⟩, tokens)
  | .operator text :: .word target :: tokens =>
    (redirection? text).map fun (kind, stream) => (⟨stream, kind, target⟩, tokens)
  | _ => none

/-- The redirections at the front of tokens, and what follows them. -/
def redirections : Nat → List Token → List Redirection × List Token
  | 0, tokens => ([], tokens)
  | n + 1, tokens =>
    match redirectionAt? tokens with
    | some (first, tokens) =>
      let (rest, tokens) := redirections n tokens
      (first :: rest, tokens)
    | none => ([], tokens)

/-- The words at the front of tokens, and what follows them. -/
def wordsOf : List Token → List Word × List Token
  | .word word :: tokens =>
    let (words, tokens) := wordsOf tokens
    (word :: words, tokens)
  | tokens => ([], tokens)

/-- A script with redirections, if there are any. -/
def Script.withRedirections (script : Script) : List Redirection → Script
  | [] => script
  | redirections => .redirected script redirections

/-- The parts of a simple command. -/
structure SimpleCommand where
  /-- The assignments in front. -/
  assignments : List (String × Word) := []
  /-- The words. -/
  words : List Word := []
  /-- The redirections. -/
  redirections : List Redirection := []

/-- The simple command at the front of tokens, and what follows it. -/
def simple : Nat → SimpleCommand → List Token → SimpleCommand × List Token
  | 0, command, tokens => (command, tokens)
  | n + 1, command, tokens =>
    match redirectionAt? tokens with
    | some (first, tokens) =>
      simple n { command with redirections := command.redirections ++ [first] } tokens
    | none =>
      match tokens with
      | .word word :: tokens =>
        match command.words, assignment? word with
        | [], some assignment =>
          simple n { command with assignments := command.assignments ++ [assignment] } tokens
        | _, _ => simple n { command with words := command.words ++ [word] } tokens
      | tokens => (command, tokens)

/-- The simple command at the front of tokens, which has to have some part. -/
def simple? (tokens : List Token) : Option (Script × List Token) :=
  let (command, rest) := simple tokens.length {} tokens
  if rest.length < tokens.length then
    some ((Script.simple command.assignments command.words).withRedirections
      command.redirections, rest)
  else none

/-- The patterns of a case up to the parenthesis, and what follows it. -/
def patterns? : List Token → Option (List Word × List Token)
  | .word first :: .operator ")" :: tokens => some ([first], tokens)
  | .word first :: .operator "|" :: tokens =>
    (patterns? tokens).map fun (rest, tokens) => (first :: rest, tokens)
  | _ => none

mutual

/-- The list of commands at the front of tokens, and what follows it. -/
def list? : Nat → List Token → Option (Script × List Token)
  | 0, _ => none
  | n + 1, tokens =>
    match skipSeparators tokens with
    | [] => some (.skip, [])
    | token :: tokens =>
      if token.isCloser then some (.skip, token :: tokens)
      else
        (chain? n (token :: tokens)).bind fun (first, tokens) =>
          match tokens with
          | .newline :: tokens | .operator ";" :: tokens | .operator "&" :: tokens =>
            (list? n tokens).map fun (rest, tokens) => (.sequence first rest, tokens)
          | tokens => some (first, tokens)

/-- Pipelines that depend on each other, and what follows them. -/
def chain? : Nat → List Token → Option (Script × List Token)
  | 0, _ => none
  | n + 1, tokens => (pipeline? n tokens).bind fun (first, tokens) => chainAfter? n first tokens

/-- Pipelines that depend on a first one, and what follows them. -/
def chainAfter? : Nat → Script → List Token → Option (Script × List Token)
  | 0, _, _ => none
  | n + 1, first, tokens =>
    match tokens with
    | .operator "&&" :: tokens =>
      (pipeline? n (skipLines tokens)).bind fun (second, tokens) =>
        chainAfter? n (.both first second) tokens
    | .operator "||" :: tokens =>
      (pipeline? n (skipLines tokens)).bind fun (second, tokens) =>
        chainAfter? n (.either first second) tokens
    | tokens => some (first, tokens)

/-- A pipeline, and what follows it. -/
def pipeline? : Nat → List Token → Option (Script × List Token)
  | 0, _ => none
  | n + 1, tokens =>
    match expect? (Token.isPlain "!") tokens with
    | some tokens =>
      (pipeline? n tokens).map fun (body, tokens) => (.negated body, tokens)
    | none =>
      (command? n tokens).bind fun (first, tokens) =>
        match tokens with
        | .operator "|" :: tokens =>
          (pipeline? n (skipLines tokens)).map fun (rest, tokens) => (.pipe first rest, tokens)
        | tokens => some (first, tokens)

/-- A command, and what follows it. -/
def command? : Nat → List Token → Option (Script × List Token)
  | 0, _ => none
  | n + 1, tokens =>
    let finish := fun (found : Option (Script × List Token)) =>
      found.map fun (body, tokens) =>
        let (redirected, tokens) := redirections tokens.length tokens
        (body.withRedirections redirected, tokens)
    match tokens with
    | .operator "(" :: tokens => finish <|
      (list? n tokens).bind fun (body, tokens) =>
        (expect? (Token.isOperator ")") tokens).map fun tokens => (.subshell body, tokens)
    | .word word :: rest =>
      match word.plain? with
      | some "if" => finish (branch? n rest)
      | some "while" => finish (loop? n false rest)
      | some "until" => finish (loop? n true rest)
      | some "for" => finish (forEach? n rest)
      | some "case" => finish (select? n rest)
      | some "\x7b" => finish <|
        (list? n rest).bind fun (body, tokens) =>
          (expect? (Token.isPlain "\x7d") tokens).map fun tokens => (body, tokens)
      | _ => simple? tokens
    | tokens => simple? tokens

/-- A branch after its first word, and what follows it. -/
def branch? : Nat → List Token → Option (Script × List Token)
  | 0, _ => none
  | n + 1, tokens =>
    (list? n tokens).bind fun (condition, tokens) =>
      (expect? (Token.isPlain "then") tokens).bind fun tokens =>
        (list? n tokens).bind fun (yes, tokens) =>
          match tokens with
          | .word word :: tokens =>
            match word.plain? with
            | some "fi" => some (.branch condition yes .skip, tokens)
            | some "elif" =>
              (branch? n tokens).map fun (no, tokens) => (.branch condition yes no, tokens)
            | some "else" =>
              (list? n tokens).bind fun (no, tokens) =>
                (expect? (Token.isPlain "fi") tokens).map fun tokens =>
                  (.branch condition yes no, tokens)
            | _ => none
          | _ => none

/-- The body of a loop, and what follows it. -/
def body? : Nat → List Token → Option (Script × List Token)
  | 0, _ => none
  | n + 1, tokens =>
    (expect? (Token.isPlain "do") tokens).bind fun tokens =>
      (list? n tokens).bind fun (body, tokens) =>
        (expect? (Token.isPlain "done") tokens).map fun tokens => (body, tokens)

/-- A loop after its first word, and what follows it. -/
def loop? : Nat → Bool → List Token → Option (Script × List Token)
  | 0, _, _ => none
  | n + 1, negated, tokens =>
    (list? n tokens).bind fun (condition, tokens) =>
      (body? n tokens).map fun (body, tokens) => (.loop negated condition body, tokens)

/-- A loop over words after its first word, and what follows it. -/
def forEach? : Nat → List Token → Option (Script × List Token)
  | 0, _ => none
  | n + 1, tokens =>
    match tokens with
    | .word binder :: tokens =>
      binder.plain?.bind fun name =>
        let (words, tokens) := match expect? (Token.isPlain "in") (skipLines tokens) with
          | some tokens => (some (wordsOf tokens).1, (wordsOf tokens).2)
          | none => (none, tokens)
        (body? n (skipSeparators tokens)).map fun (body, tokens) =>
          (.forEach name words body, tokens)
    | _ => none

/-- A choice by patterns after its first word, and what follows it. -/
def select? : Nat → List Token → Option (Script × List Token)
  | 0, _ => none
  | n + 1, tokens =>
    match tokens with
    | .word word :: tokens =>
      (expect? (Token.isPlain "in") (skipLines tokens)).bind fun tokens =>
        (cases? n (skipLines tokens)).map fun (cases, tokens) => (.select word cases, tokens)
    | _ => none

/-- The cases of a choice up to its last word, and what follows it. -/
def cases? : Nat → List Token → Option (List (List Word × Script) × List Token)
  | 0, _ => none
  | n + 1, tokens =>
    match expect? (Token.isPlain "esac") tokens with
    | some tokens => some ([], tokens)
    | none =>
      let tokens := (expect? (Token.isOperator "(") tokens).getD tokens
      (patterns? tokens).bind fun (patterns, tokens) =>
        (list? n tokens).bind fun (body, tokens) =>
          let tokens := (expect? (Token.isOperator ";;") tokens).getD tokens
          (cases? n (skipLines tokens)).map fun (rest, tokens) =>
            ((patterns, body) :: rest, tokens)

end

/-- The script that a text is. -/
def Script.ofText? (text : List Char) : Option Script := do
  let tokens ← tokens? text
  match ← list? (8 * tokens.length + 8) tokens with
  | (script, []) => return script
  | _ => none

end SnippetCheck.Shell
