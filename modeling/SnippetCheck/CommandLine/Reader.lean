import SnippetCheck.CommandLine.Request
import SnippetCheck.Text.Decimal

/-!
# Reading Command Lines

A command line has two levels: options for every command, and then a command with its own
options and its argument. Options for every command may also follow the command.

An option is given by its name after two dashes or by its letter after one. The value of an
option is attached to it or follows it. After two dashes alone, no further option is read. A
value is settled, and its faults are found, when the next argument turns up or the level ends.
-/

namespace SnippetCheck.CommandLine

/-- What an argument is about. -/
inductive Key where
  | config
  | verbose
  | quiet
  | help
  | version
  | cleanCache
  | baseline
  | sdkVersion
  | jobs
  | json
  | language
  | shell
  deriving DecidableEq, Repr

/-- An option. -/
structure Flag where
  /-- What it is about. -/
  key : Key
  /-- Its name. -/
  long : String
  /-- Its letter. -/
  short : Option Char := none
  /-- Whether it has a value. -/
  hasValue : Bool := false

/-- The commands. -/
inductive Verb where
  | validate
  | list
  | clean
  | completions
  deriving DecidableEq, Repr

/-- What may stand at a level. -/
structure Level where
  /-- The options. -/
  flags : List Flag
  /-- The argument. -/
  argument : Option Key := none
  /-- Whether a command follows. -/
  hasCommands : Bool := false

namespace Verb

/-- The word for a command. -/
def word : Verb → String
  | .validate => "validate"
  | .list => "list"
  | .clean => "clean"
  | .completions => "completions"

/-- All commands. -/
def all : List Verb := [.validate, .list, .clean, .completions]

/-- The command that a word names. -/
def ofWord? (word : String) : Option Verb :=
  all.find? fun verb => verb.word = word

/-- The options of a command alone. -/
def flags : Verb → List Flag
  | .validate => [
      { key := .cleanCache, long := "clean" },
      { key := .baseline, long := "baseline" },
      { key := .sdkVersion, long := "sdk-version", hasValue := true },
      { key := .jobs, long := "jobs", short := some 'j', hasValue := true }]
  | .list => [{ key := .json, long := "json" }]
  | .clean | .completions => []

/-- The argument of a command. -/
def argument : Verb → Key
  | .completions => .shell
  | _ => .language

end Verb

namespace Level

/-- The options at every level. -/
def commonFlags : List Flag := [
  { key := .config, long := "config", short := some 'c', hasValue := true },
  { key := .verbose, long := "verbose", short := some 'v' },
  { key := .quiet, long := "quiet", short := some 'q' },
  { key := .help, long := "help", short := some 'h' }]

/-- The first level. -/
def top : Level where
  flags := commonFlags ++ [{ key := .version, long := "version", short := some 'V' }]
  hasCommands := true

/-- The level of a command. -/
def ofVerb (verb : Verb) : Level where
  flags := commonFlags ++ verb.flags
  argument := some verb.argument

/-- The option of a name. -/
def long? (level : Level) (name : String) : Option Flag :=
  level.flags.find? fun flag => flag.long = name

/-- The option of a letter. -/
def short? (level : Level) (letter : Char) : Option Flag :=
  level.flags.find? fun flag => flag.short = some letter

end Level

/-- Whether a character is a decimal digit. -/
def isDigit (c : Char) : Bool :=
  '0' ≤ c && c ≤ '9'

/-- The positive number below 2^64 that a text denotes. A plus sign may precede the digits. -/
def positive? (text : String) : Option Nat :=
  let digits := match text.toList with
    | '+' :: digits => digits
    | digits => digits
  if digits.isEmpty || !digits.all isDigit then none
  else
    let n := digits.foldl (fun n c => 10 * n + (c.toNat - '0'.toNat)) 0
    if 0 < n && n < Text.limit64 then some n else none

/-- What is wrong with a value, if anything is. -/
def valueFault? (key : Key) (value : String) : Option Usage :=
  match key with
  | .config => if value = "" then some .badValue else none
  | .language => if (Language.ofText? value).isNone then some .unreadableValue else none
  | .jobs => if (positive? value).isNone then some .unreadableValue else none
  | .shell => if (CompletionShell.ofWord? value).isNone then some .badValue else none
  | _ => none

/-- What has been read at a level. -/
structure Reading where
  /-- The settled arguments, the last one first. -/
  settled : List (Key × String) := []
  /-- The argument that is not settled yet, and its value if that has been read. -/
  pending : Option (Key × Option String) := none
  /-- Whether the level's argument has been read. -/
  hasArgument : Bool := false
  /-- Whether no further option is read. -/
  plain : Bool := false

namespace Reading

/-- The settled value for a key. -/
def value? (reading : Reading) (key : Key) : Option String :=
  reading.settled.lookup key

/-- Whether a key was settled. -/
def has (reading : Reading) (key : Key) : Bool :=
  (reading.value? key).isSome

/-- Whether the value of an option has to come next. -/
def awaitsValue (reading : Reading) : Bool :=
  match reading.pending with
  | some (_, none) => true
  | _ => false

/-- Add an argument that was not given before. -/
def add (reading : Reading) (key : Key) (value : String) : Except Usage Reading :=
  if reading.has key then .error .conflict
  else
    match valueFault? key value with
    | some usage => .error usage
    | none => .ok { reading with settled := (key, value) :: reading.settled }

/-- Settle what is pending. -/
def settle (reading : Reading) : Except Usage Reading :=
  match reading.pending with
  | none => .ok reading
  | some (_, none) => .error .badValue
  | some (key, some value) => { reading with pending := none }.add key value

/-- Read an option that has no value. -/
def switch (reading : Reading) (key : Key) : Except Usage Reading := do
  let reading ← reading.settle
  match key with
  | .help => throw .help
  | .version => throw .version
  | _ => reading.add key ""

/-- Read an option that has a value, which may be attached. -/
def option (reading : Reading) (key : Key) (attached : Option String) :
    Except Usage Reading := do
  let reading ← reading.settle
  match attached with
  | some value => reading.add key value
  | none => return { reading with pending := some (key, none) }

/-- Read an option by its name, after the dashes. -/
def long (reading : Reading) (level : Level) (name : String) (attached : Option String) :
    Except Usage Reading :=
  match level.long? name with
  | none => .error .unknownArgument
  | some flag =>
    if flag.hasValue then reading.option flag.key attached
    else if attached.isSome then .error .valueForSwitch
    else reading.switch flag.key

/-- Read options by their letters, after the dash. What follows the letter of an option with a
value is its value. -/
def short (level : Level) : List Char → Reading → Except Usage Reading
  | [], reading => .ok reading
  | letter :: letters, reading =>
    match level.short? letter with
    | none => .error .unknownArgument
    | some flag =>
      if flag.hasValue then
        match letters with
        | [] => reading.option flag.key none
        | '=' :: value => reading.option flag.key (some (String.ofList value))
        | value => reading.option flag.key (some (String.ofList value))
      else do
        short level letters (← reading.switch flag.key)

/-- Read a word that is no option. -/
def word (reading : Reading) (level : Level) (text : String) : Except Usage Reading :=
  match level.argument with
  | some key =>
    if reading.hasArgument then .error .unknownArgument
    else do
      let reading ← reading.settle
      return { reading with pending := some (key, some text), hasArgument := true }
  | none =>
    if reading.plain && (text = "help" || (Verb.ofWord? text).isSome) then
      .error .unknownArgument
    else .error .unknownCommand

/-- Read an argument as the pending value or as a word. -/
def valueOrWord (reading : Reading) (level : Level) (text : String) : Except Usage Reading :=
  match reading.pending with
  | some (key, none) => .ok { reading with pending := some (key, some text) }
  | _ => reading.word level text

/-- Read an argument that is not a command. -/
def argument (reading : Reading) (level : Level) (text : String) : Except Usage Reading :=
  if reading.plain then reading.word level text
  else
    match text.toList with
    | ['-', '-'] => .ok { reading with plain := true }
    | '-' :: '-' :: rest =>
      let name := String.ofList (rest.takeWhile (· ≠ '='))
      match rest.dropWhile (· ≠ '=') with
      | [] => reading.long level name none
      | _ :: value => reading.long level name (some (String.ofList value))
    | '-' :: letter :: letters => short level (letter :: letters) reading
    | _ => reading.valueOrWord level text

/-- Settle what is left at the end of a level, which must not be both verbose and quiet. -/
def finish (reading : Reading) : Except Usage Reading := do
  let reading ← reading.settle
  if reading.has .verbose && reading.has .quiet then throw .conflict
  return reading

end Reading

/-- Read the arguments of a command. -/
def readCommand (verb : Verb) (args : List String) : Except Usage Reading := do
  let level := Level.ofVerb verb
  let reading ← args.foldlM (fun (reading : Reading) text => reading.argument level text) {}
  let reading ← reading.finish
  if reading.has verb.argument then return reading
  throw .missingArgument

/-- Read what follows the word `help`: nothing, or one command. -/
def readHelp : List String → Usage
  | [] => .help
  | [word] => if word = "help" || (Verb.ofWord? word).isSome then .help else .unknownCommand
  | _ => .unknownCommand

/-- Read the first level, which ends with a command, and then the command. -/
def readTop (reading : Reading) : List String → Except Usage (Reading × Verb × Reading)
  | [] => do
    let reading ← reading.settle
    if reading.settled.isEmpty then throw .empty
    throw .missingCommand
  | text :: args =>
    if reading.plain || reading.awaitsValue then do
      readTop (← reading.argument .top text) args
    else if text = "help" then .error (readHelp args)
    else
      match Verb.ofWord? text with
      | some verb => do
        let command ← readCommand verb args
        return (← reading.finish, verb, command)
      | none => do readTop (← reading.argument .top text) args

/-- The language that was read. -/
def languageOf (reading : Reading) : Except Usage Language :=
  match (reading.value? .language).bind Language.ofText? with
  | some language => .ok language
  | none => .error .missingArgument

/-- What a command asks for. -/
def jobOf (verb : Verb) (reading : Reading) : Except Usage Job :=
  match verb with
  | .validate => do
    return .validate (← languageOf reading) (reading.has .cleanCache) (reading.has .baseline)
      (reading.value? .sdkVersion) ((reading.value? .jobs).bind positive?)
  | .list => do return .list (← languageOf reading) (reading.has .json)
  | .clean => do return .clean (← languageOf reading)
  | .completions =>
    match (reading.value? .shell).bind CompletionShell.ofWord? with
    | some shell => .ok (.completions shell)
    | none => .error .missingArgument

/-- What a command line asks for. Of a value given at both levels, the one nearer to the
command counts; a switch counts at either. -/
def Request.ofArgs (args : List String) : Except Usage Request := do
  let (top, verb, command) ← readTop {} args
  let has := fun key => top.has key || command.has key
  return {
    config := ((command.value? .config).orElse fun () => top.value? .config).getD "fence.toml"
    verbosity := .ofSwitches (has .verbose) (has .quiet)
    job := ← jobOf verb command }

end SnippetCheck.CommandLine
