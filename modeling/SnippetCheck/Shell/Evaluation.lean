import SnippetCheck.Shell.Expansion
import SnippetCheck.Shell.Reader
import SnippetCheck.Shell.Utility

/-!
# Running Scripts

What a script does to the state of a shell. How control goes on after a script is a result
beside the state. The evaluator takes a bound on the depth of its calls, which also bounds
the rounds of loops; a script that goes deeper is killed.
-/

namespace SnippetCheck.Shell

open SnippetCheck.Files SnippetCheck.Text

/-- How control goes on. -/
inductive Flow where
  /-- With what comes next. -/
  | next
  /-- Behind some loops. -/
  | leave (loops : Nat)
  /-- With the next round of a loop, behind some others. -/
  | again (loops : Nat)
  /-- Not at all: the shell ends. -/
  | exit
  /-- Not at all: a signal ends the shell. -/
  | killed (signal : Nat)
  deriving DecidableEq, Repr

/-- How a script is run. -/
abbrev Runner := Script → State → State × Flow

/-- Whether a flow ends a shell and all around it. -/
def Flow.isKill : Flow → Bool
  | .killed _ => true
  | _ => false

/-- The flow around a subshell. -/
def Flow.outside (flow : Flow) : Flow :=
  if flow.isKill then flow else .next

/-! ## Streams -/

/-- Where a stream goes. -/
inductive Target where
  /-- To a stream around the script. -/
  | stream (n : Nat)
  /-- To a file. -/
  | file (path : String)
  deriving DecidableEq, Repr

/-- Where the streams go, and the input. -/
structure Routing where
  /-- The target of the output. -/
  output : Target := .stream 1
  /-- The target of the error output. -/
  errors : Target := .stream 2

/-- The target of a stream. -/
def Routing.target (routing : Routing) (stream : Nat) : Target :=
  if stream = 1 then routing.output else if stream = 2 then routing.errors else .stream stream

/-- Let a stream go elsewhere. -/
def Routing.set (routing : Routing) (stream : Nat) (target : Target) : Routing :=
  if stream = 1 then { routing with output := target }
  else if stream = 2 then { routing with errors := target }
  else routing

/-- The stream from which nothing is taken. -/
def Target.closed : Target := .stream 3

/-- Write bytes to the end of a file. -/
def appendTo (state : State) (path : String) (bytes : List UInt8) : State :=
  let before := (Utility.bytesAt state path).toOption.getD []
  match state.files.write state.cwd path (ByteArray.mk (before ++ bytes).toArray) with
  | .ok files => { state with files }
  | .error _ => state

/-- Deliver what a script has written. -/
def deliver (routing : Routing) (state : State) (written : Nat × List UInt8) : State :=
  match routing.target written.1 with
  | .stream n => state.write n written.2
  | .file path => appendTo state path written.2

/-- Let a stream go to the end of a file, which is to hold given bytes before. -/
def sendTo (routing : Routing) (stream : Nat) (path : String) (bytes : List UInt8)
    (state : State) : Except State (Routing × State) :=
  if path = Utility.nowhere then .ok (routing.set stream .closed, state)
  else
    match state.files.write state.cwd path (ByteArray.mk bytes.toArray) with
    | .ok files => .ok (routing.set stream (.file path), { state with files })
    | .error _ =>
      .error ((state.complain s!"sh: 1: cannot create {path}: Directory nonexistent").withStatus 2)

/-- Prepare a redirection. A file that cannot be used ends the command. -/
def prepare (routing : Routing) (kind : RedirectionKind) (stream : Nat) (target : String)
    (state : State) : Except State (Routing × State) :=
  match kind with
  | .copy =>
    if target = "-" then .ok (routing.set stream .closed, state)
    else
      match target.toNat? with
      | some n => .ok (routing.set stream (routing.target n), state)
      | none => .error ((state.complain s!"sh: 1: Syntax error: Bad fd number").withStatus 2)
  | .read =>
    match if target = "-" then .error .notFound else Utility.bytesAt state target with
    | .ok bytes => .ok (routing, { state with input := bytes })
    | .error _ =>
      .error ((state.complain s!"sh: 1: cannot open {target}: No such file").withStatus 2)
  | .write => sendTo routing stream target [] state
  | .append => sendTo routing stream target ((Utility.bytesAt state target).toOption.getD []) state

/-- Prepare several redirections, one after the other. -/
def prepareAll (substitute : Substitution) (routing : Routing) :
    List Redirection → State → Except State (Routing × State)
  | [], state => .ok (routing, state)
  | redirection :: redirections, state => do
    let (target, state) := (textOf substitute redirection.target).run state
    let (routing, state) ←
      prepare routing redirection.kind redirection.stream target state
    prepareAll substitute routing redirections state

/-- Run something with redirections. -/
def withRedirections (substitute : Substitution) (redirections : List Redirection)
    (body : State → State × Flow) (state : State) : State × Flow :=
  match prepareAll substitute {} redirections state with
  | .error state => (state, .next)
  | .ok (routing, prepared) =>
    let (inner, flow) := body { prepared with log := [] }
    let reads := redirections.any fun redirection => redirection.kind = .read
    let outer := { inner with
      log := prepared.log
      input := if reads then state.input else inner.input }
    (inner.log.reverse.foldl (deliver routing) outer, flow)

/-! ## Shells within shells -/

/-- The state of a shell after another one that was started from it. -/
def afterChild (state child : State) : State :=
  { state with files := child.files, status := child.status, log := child.log }

/-- Run a script and take its output, without the line ends at its end. -/
def substituted (run : Runner) : Substitution := fun text state =>
  match Script.ofText? text with
  | none => ((state.complain "sh: 1: Syntax error").withStatus 2, "")
  | some script =>
    let (child, _) := run script { state with log := [] }
    let output := (readBytes (child.written 1)).reverse.dropWhile (· = '\n')
    let log := child.log.filter fun written => written.1 ≠ 1
    (afterChild state { child with log := log ++ state.log }, String.ofList output.reverse)

/-- Run the second script on the output of the first. -/
def piped (run : Runner) (first second : Script) (state : State) : State × Flow :=
  let (left, flow) := run first { state with log := [] }
  if flow.isKill then (afterChild state { left with log := left.log ++ state.log }, flow)
  else
    let errors := left.log.filter fun written => written.1 ≠ 1
    let (right, flow) := run second
      { state with files := left.files, input := left.written 1, log := errors ++ state.log }
    (afterChild state right, flow.outside)

/-- Run a script as a shell of its own, with a name and arguments. -/
def runShell (run : Runner) (name : String) (args : List String) (text : List Char)
    (state : State) : State × Flow :=
  match Script.ofText? text with
  | none => ((state.complain s!"{name}: 1: Syntax error").withStatus 2, .next)
  | some script =>
    let (child, flow) := run script {
      state with name, args, bindings := state.inherited, strict := false, status := 0 }
    ({ afterChild state child with input := child.input }, flow.outside)

/-- Start a shell on a script that is given as an argument or stands in a file. -/
def startShell (run : Runner) (args : List String) (state : State) : State × Flow :=
  match args with
  | "-c" :: script :: name :: args => runShell run name args script.toList state
  | ["-c", script] => runShell run "sh" [] script.toList state
  | path :: args =>
    match state.files.readBytes state.cwd path with
    | .ok bytes => runShell run path args (readBytes bytes.toList) state
    | .error _ =>
      ((state.complain s!"sh: 0: cannot open {path}: No such file").withStatus 2, .next)
  | [] => runShell run "sh" [] (readBytes state.input) { state with input := [] }

/-- Run a text as a part of the script that calls for it. -/
def runText (run : Runner) (text : List Char) (state : State) : State × Flow :=
  match Script.ofText? text with
  | some script => run script (state.withStatus 0)
  | none => ((state.complain "sh: 1: Syntax error").withStatus 2, .exit)

/-- Run a file as a part of the script that calls for it. -/
def runFile (run : Runner) (path : String) (state : State) : State × Flow :=
  match state.files.readBytes state.cwd path with
  | .ok bytes => runText run (readBytes bytes.toList) state
  | .error _ =>
    ((state.complain s!"sh: 1: .: cannot open {path}: No such file").withStatus 2, .exit)

/-! ## Commands -/

/-- The signal that an argument asks for. -/
def signalOf : List String → Nat
  | "-9" :: _ | "-KILL" :: _ => 9
  | "-2" :: _ | "-INT" :: _ => 2
  | "-1" :: _ | "-HUP" :: _ => 1
  | _ => 15

/-- The number of loops that an argument asks for. -/
def loopsOf (args : List String) : Nat :=
  ((args.head?.bind String.toNat?).getD 1) - 1

/-- Run a command with its arguments. -/
def runCommand (run : Runner) (name : String) (args : List String) (state : State) :
    State × Flow :=
  match name with
  | "" => ((state.complain "sh: 1: : Permission denied").withStatus 127, .next)
  | "exit" | "return" =>
    (state.withStatus (((args.head?.bind String.toNat?).getD state.status) % 256), .exit)
  | "break" => (state.withStatus 0, .leave (loopsOf args))
  | "continue" => (state.withStatus 0, .again (loopsOf args))
  | "kill" => (state.withStatus 0, .killed (signalOf args))
  | "exec" =>
    match args with
    | [] => (state.withStatus 0, .next)
    | name :: args =>
      if name = "sh" then
        let (state, flow) := startShell run args state
        (state, if flow.isKill then flow else .exit)
      else
        match Utility.program? name with
        | some program => (program args state, .exit)
        | none => ((state.complain s!"sh: 1: exec: {name}: not found").withStatus 127, .exit)
  | "sh" => startShell run args state
  | "eval" => runText run (" ".intercalate args).toList state
  | "." => runFile run (args.headD "") state
  | name =>
    match Utility.find? name with
    | some utility => (utility args state, .next)
    | none => ((state.complain s!"sh: 1: {name}: not found").withStatus 127, .next)

/-- Set variables, one after the other. -/
def assignAll (substitute : Substitution) : List (String × Word) → State → State
  | [], state => state
  | (name, word) :: assignments, state =>
    let (value, state) := (textOf substitute word).run state
    assignAll substitute assignments (state.assign name value)

/-- Run a simple command. Its assignments last only as long as it runs, unless there is no
command. What a command itself assigns stays. -/
def runSimple (run : Runner) (assignments : List (String × Word)) (words : List Word)
    (state : State) : State × Flow :=
  let substitute := substituted run
  let (fields, state) := (fieldsFor substitute words).run state
  match fields with
  | [] =>
    let before := { state with status := 0 }
    -- without any word the status is that of a substitution in the values, or success
    (assignAll substitute assignments (if words.isEmpty then before else state), .next)
  | name :: args =>
    let names := assignments.map Prod.fst
    let given := names.foldl State.expose (assignAll substitute assignments state)
    let (after, flow) := runCommand run name args given
    -- the variables that the assignments name get back what they had before
    let kept := after.bindings.filter fun entry => !names.contains entry.1
    let restored := state.bindings.filter fun entry => names.contains entry.1
    let exported := if names.isEmpty then after.exported else state.exported
    ({ after with bindings := kept ++ restored, exported }, flow)

/-- The flow after a round of a loop, and whether there is a further round. -/
def Flow.afterRound : Flow → Flow × Bool
  | .next => (.next, true)
  | .again 0 => (.next, true)
  | .again (n + 1) => (.again n, false)
  | .leave 0 => (.next, false)
  | .leave (n + 1) => (.leave n, false)
  | flow => (flow, false)

/-- Run a script for each of some values of a variable. -/
def runForEach (run : Runner) (name : String) (body : Script) :
    List String → State → State × Flow
  | [], state => (state, .next)
  | value :: values, state =>
    let (state, flow) := run body (state.assign name value)
    let (flow, further) := flow.afterRound
    if further then runForEach run name body values state else (state, flow)

/-- Whether one of some patterns stands for a text. -/
def anyMatches (substitute : Substitution) (text : String) :
    List Word → State → Bool × State
  | [], state => (false, state)
  | pattern :: patterns, state =>
    let (glob, state) := (globFor substitute pattern).run state
    if globMatches glob text.toList then (true, state)
    else anyMatches substitute text patterns state

/-- Run the first script that has a pattern for a text. -/
def runSelect (run : Runner) (text : String) :
    List (List Word × Script) → State → State × Flow
  | [], state => (state.withStatus 0, .next)
  | (patterns, body) :: cases, state =>
    match anyMatches (substituted run) text patterns state with
    | (true, state) => run body (state.withStatus 0)
    | (false, state) => runSelect run text cases state

/-! ## Scripts -/

/-- Run something, and then go on if control does. -/
def andThen (first : State × Flow) (rest : State → State × Flow) : State × Flow :=
  match first with
  | (state, .next) => rest state
  | other => other

/-- Run a script as a condition. Its failure never ends the shell. -/
def asCondition (run : State → State × Flow) (state : State) : State × Flow :=
  let (after, flow) := run { state with strict := false }
  ({ after with strict := state.strict }, flow)

/-- End the shell after a command that has failed, if the shell is to end then. -/
def checked (result : State × Flow) : State × Flow :=
  match result with
  | (state, .next) => (state, if state.strict && state.status ≠ 0 then .exit else .next)
  | other => other

/-- Run a script, with a bound on the depth of calls. -/
def evaluate : Nat → Script → State → State × Flow
  | 0, _, state => (state, .killed 9)
  | n + 1, script, state =>
    match script with
    | .skip => (state, .next)
    | .simple assignments words => checked (runSimple (evaluate n) assignments words state)
    | .redirected body redirections =>
      withRedirections (substituted (evaluate n)) redirections (evaluate n body) state
    | .sequence first second => andThen (evaluate n first state) (evaluate n second)
    | .both first second => andThen (asCondition (evaluate n first) state) fun state =>
      if state.status = 0 then evaluate n second state else (state, .next)
    | .either first second => andThen (asCondition (evaluate n first) state) fun state =>
      if state.status = 0 then (state, .next) else evaluate n second state
    | .negated body => andThen (asCondition (evaluate n body) state) fun state =>
      (state.withTruth (state.status ≠ 0), .next)
    | .pipe first second => checked (piped (evaluate n) first second state)
    | .branch condition yes no => andThen (asCondition (evaluate n condition) state) fun state =>
      if state.status = 0 then evaluate n yes (state.withStatus 0)
      else evaluate n no (state.withStatus 0)
    | .loop negated condition body =>
      andThen (asCondition (evaluate n condition) state) fun state =>
        -- `while` ends on failure, `until` on success
        if (state.status = 0) = negated then (state.withStatus 0, .next)
        else
          let (state, flow) := evaluate n body state
          let (flow, further) := flow.afterRound
          if further then evaluate n (.loop negated condition body) state else (state, flow)
    | .forEach name words body =>
      let (values, state) := match words with
        | some words => (fieldsFor (substituted (evaluate n)) words).run state
        | none => (state.args, state)
      runForEach (evaluate n) name body values (state.withStatus 0)
    | .select word cases =>
      let (text, state) := (textOf (substituted (evaluate n)) word).run state
      runSelect (evaluate n) text cases state
    | .subshell body =>
      -- only the files, the streams and the status of a child come back
      let (child, flow) := evaluate n body state
      checked ({ afterChild state child with input := child.input }, flow.outside)

end SnippetCheck.Shell
