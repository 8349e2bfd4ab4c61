import SnippetCheck.Cleaning
import SnippetCheck.CommandLine.Reader
import SnippetCheck.Listing
import SnippetCheck.Manifest.Opened
import SnippetCheck.Validation

/-!
# The Program

What a command line does to a workspace, what is written, and the exit code. Faults of the
manifest and errors of a run are written to the error output.
-/

namespace SnippetCheck.CommandLine

open SnippetCheck.Report

/-- What is left of a call of the program. -/
structure Exit where
  /-- The exit code. -/
  code : Nat
  /-- What was written to the output. -/
  output : String := ""
  /-- What was written to the error output. -/
  errors : String := ""
  deriving DecidableEq, Repr

namespace Exit

/-- A call that wrote a report. -/
def ofRendering (code : Nat) (rendering : Rendering) : Exit where
  code := code
  output := textOf rendering.output
  errors := textOf rendering.errors

/-- A call that failed for a fault of the manifest. -/
def ofManifestError (error : ManifestError) : Exit where
  code := 1
  errors := textOf (s!"Error: {error.message}" :: error.help?.toList.map fun help =>
    s!"help: {help}")

/-- A call that failed while it ran. -/
def ofRunError (error : RunError) : Exit where
  code := 1
  errors := textOf ("Error:" :: error.chain.map fun message => s!"   {message}")

end Exit

/-- The name and the version of the program. -/
def versionText : String := "fence 0.1.0"

/-- What the program is for and how it is called. -/
def helpText : String := textOf [
  "Compile-check the code snippets in your documentation",
  "",
  "Usage: fence [OPTIONS] <COMMAND>",
  "",
  "Commands:",
  "  validate     Compile every snippet of one language and report failures",
  "  list         List the snippets of one language without compiling",
  "  clean        Remove generated sources, compiled classes and the cache",
  "  completions  Generate shell completions",
  "  help         Print this message",
  "",
  "Options:",
  "  -c, --config <CONFIG>  Path to fence.toml [default: fence.toml]",
  "  -v, --verbose          Log every step",
  "  -q, --quiet            Only log warnings and errors",
  "  -h, --help             Print help",
  "  -V, --version          Print version"]

/-- The words that complete a command line. -/
def completionWords : String :=
  " ".intercalate (Verb.all.map Verb.word ++ ["help"])

/-- What makes a shell complete command lines. -/
def completionScript : CompletionShell → String
  | .bash => s!"complete -W '{completionWords}' fence"
  | .zsh => s!"compctl -k ({completionWords}) fence"
  | .fish => s!"complete -c fence -f -a '{completionWords}'"
  | .elvish =>
    s!"set edit:completion:arg-completer[fence] = \x7b|@a| put {completionWords} \x7d"
  | .powershell =>
    s!"Register-ArgumentCompleter -Native -CommandName fence -ScriptBlock " ++
      s!"\x7b '{completionWords}' -split ' ' \x7d"

/-- What a wrong or special command line leads to. -/
def Exit.ofUsage : Usage → Exit
  | .help => { code := 0, output := helpText }
  | .version => { code := 0, output := versionText.push '\n' }
  | .empty => { code := Usage.empty.exitCode, errors := helpText }
  | usage => { code := usage.exitCode, errors := usage.message.push '\n' }

/-- Validate the snippets of a language. -/
def validate (machine : Machine) (environment : String → Option String)
    (opened : OpenedManifest) (choice : ValidationChoice) : StateM Workspace Exit := do
  let validation := Validation.run machine opened.manifest opened.root environment choice
  match ← validation.run with
  | .ok validation => return .ofRendering validation.exitCode validation.render
  | .error error => return .ofRunError error

/-- The SDK version to validate against: one from the command line, or the manifest's. -/
def versionFor (opened : OpenedManifest) (given : Option String) (workspace : Workspace) :
    Except Exit SdkVersion :=
  match given with
  | some text =>
    match SdkVersion.ofText text with
    | .ok version => .ok version
    | .error error => .error (.ofRunError (.version error))
  | none =>
    match opened.manifest.sdk.resolveIn workspace opened.root with
    | .ok version => .ok version
    | .error error => .error (.ofManifestError error)

/-- Do something with the manifest in a file. -/
def withManifest (path : String) (act : OpenedManifest → StateM Workspace Exit) :
    StateM Workspace Exit := do
  match OpenedManifest.load (← get) path with
  | .ok opened => act opened
  | .error error => return .ofManifestError error

/-- List the snippets of a language. -/
def list (language : Language) (json : Bool) (opened : OpenedManifest) :
    StateM Workspace Exit := do
  match Listing.run opened.manifest opened.root language (← get) with
  | .error error => return .ofRunError (.files error)
  | .ok listing =>
    if json then return { code := 0, output := listing.toText.push '\n' }
    else return .ofRendering 0 listing.render

/-- Remove what validations of a language have left. -/
def clean (language : Language) (opened : OpenedManifest) : StateM Workspace Exit := do
  match ← (Cleaning.run opened.manifest opened.root language).run with
  | .error error => return .ofRunError (.files error)
  | .ok cleaning => return .ofRendering 0 cleaning.render

/-- Do what was asked for. Completions need no manifest. -/
def perform (machine : Machine) (environment : String → Option String) (request : Request) :
    StateM Workspace Exit :=
  match request.job with
  | .completions shell => return { code := 0, output := (completionScript shell).push '\n' }
  | .list language json => withManifest request.config (list language json)
  | .clean language => withManifest request.config (clean language)
  | .validate language cleanCache capture version jobs =>
    withManifest request.config fun opened => do
      match versionFor opened version (← get) with
      | .error exit => return exit
      | .ok version =>
        let mode := if capture then Mode.capture else .normal
        validate machine environment opened { language, version, mode, cleanCache, jobs }

/-- Run the program with the arguments of a command line. -/
def run (machine : Machine) (environment : String → Option String) (args : List String) :
    StateM Workspace Exit :=
  match Request.ofArgs args with
  | .error usage => return .ofUsage usage
  | .ok request => perform machine environment request

end SnippetCheck.CommandLine
