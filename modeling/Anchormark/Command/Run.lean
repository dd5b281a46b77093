import Anchormark.Command.Arguments
import Anchormark.Node.Outline
import Anchormark.Settings.File

/-!
# The Command

A run goes through its stages in order: it loads the settings, makes a pipeline, reads the text,
renders it, and writes the result. The first stage that fails ends the run. Nothing is printed or
written before the last stage, so a failed run leaves no trace.

Settings that the user asks for have to be there. The ones at the usual place do not.

## Main definitions

* `CommandError`: why a run failed.
* `Invocation.result`: all stages but the last.
* `Invocation.run`: all stages.
* `Outcome`: how the command ended.
* `runCommand`: the command with its arguments.
-/

namespace Anchormark

/-- Why a run failed. -/
inductive CommandError
  | settingsMissing (path : String)
  | settings (error : SettingsError)
  | invalidSettings (error : PipelineError)
  /-- The text could not be read; without a path, that is the input. -/
  | unreadable (path : Option String)
  | pipeline (error : PipelineError)
  | unwritable (path : String)
  deriving DecidableEq, Repr

/-- The wording of an error. -/
def CommandError.message : CommandError → String
  | settingsMissing path => "Config file not found: " ++ path
  | settings error => error.message
  | invalidSettings _ => "Invalid settings"
  | unreadable (some path) => "Failed to read " ++ path
  | unreadable none => "Failed to read stdin"
  | pipeline error => error.message
  | unwritable path => "Failed to write " ++ path

/-- How the command ended. -/
inductive Outcome
  | success
  /-- The text of this file, or of the input, would change. -/
  | differs (path : Option String)
  | failure (error : CommandError)
  | usage (error : UsageError)
  deriving DecidableEq, Repr

/-- The exit code that tells a caller how the command ended. -/
def Outcome.code : Outcome → Nat
  | success => 0
  | differs _ | failure _ => 1
  | usage _ => 2

/-- A lone dash as a path, which stands for the input. It may be followed by slashes and by names
    that stay where they are. -/
def isInputPath (path : String) : Bool :=
  match path.splitOn "/" with
  | name :: rest => name = "-" && rest.all fun name => name = "" || name = "."
  | [] => false

namespace Invocation

variable {m : Type → Type} [Monad m]

/-- The settings of the run. A path that cannot be expanded is taken as it is. -/
def loadSettings (i : Invocation) (host : Host m) : ExceptT CommandError m Settings := do
  match i.settings with
  | none =>
    match ← Settings.loadDefault (m := m) host with
    | .error e => throw (.settings e)
    | .ok found => return found.getD {}
  | some path =>
    let path := (expandPath? (← host.environment (pathVariables path)) path).getD path
    match ← Settings.load (m := m) host path with
    | .error e => throw (.settings e)
    | .ok none => throw (.settingsMissing path)
    | .ok (some s) => return s

/-- The file that the text is in, unless it is the input. -/
def inputFile (i : Invocation) : Option String :=
  i.input.filter (!isInputPath ·)

/-- The text of the run. -/
def readText (i : Invocation) (host : Host m) : ExceptT CommandError m String := do
  let bytes ← match i.inputFile with
    | none => Except.ok <$> host.readInput
    | some path => host.readFile path
  match bytes.toOption.bind String.fromUTF8? with
  | some text => return text
  | none => throw (.unreadable i.inputFile)

/-- What the run makes of a text. -/
def render (i : Invocation) (p : Pipeline) (text : String) : Except CommandError String :=
  if i.tree then .ok (p.run (p.parse text) text).outline
  else (p.process text).mapError .pipeline

/-- The text that was read and the result. -/
def result (i : Invocation) (host : Host m) : ExceptT CommandError m (String × String) := do
  let settings ← i.loadSettings host
  let pipeline ← (Pipeline.new? settings.pipelineOptions).mapError CommandError.invalidSettings
  let text ← i.readText host
  return (text, ← i.render pipeline.installStandard text)

/-- Puts the result where it belongs. -/
def deliver (i : Invocation) (host : Host m) (text result : String) : m Outcome :=
  if i.check then return if result = text then .success else .differs i.inputFile
  else
    match i.output with
    | none => do
      host.print result
      return .success
    | some path => do
      if ← host.writeFile false path result then return .success
      else return .failure (.unwritable path)

/-- Does what the command is asked to do. -/
def run (i : Invocation) (host : Host m) : m Outcome := do
  match ← (i.result host).run with
  | .error e => return .failure e
  | .ok (text, result) => i.deliver host text result

end Invocation

/-- The variable that names the settings if no argument does. -/
def settingsVariable : String := "MARKDOWN_ANCHOR_CONFIG"

/-- The name and version of the command. -/
def versionText : String := "markdown-anchor 0.1.0\n"

/-- What the command can do. -/
def helpText : String :=
  "Rewrites `[]()\x7b#id\x7d` placeholder links into anchors and re-renders Markdown\n\n" ++
  "Usage: markdown-anchor [OPTIONS] [INPUT]\n\n" ++
  "Arguments:\n" ++
  "  [INPUT]  Markdown file to read; `-` or nothing reads stdin\n\n" ++
  "Options:\n" ++
  "  -o, --output <OUTPUT>  Write the result here instead of stdout\n" ++
  "  -c, --config <CONFIG>  Settings file (default: ~/.config/markdown-anchor/config.toml) " ++
  "[env: MARKDOWN_ANCHOR_CONFIG=]\n" ++
  "      --check            Exit with status 1 if the output differs from the input; " ++
  "writes nothing\n" ++
  "      --tree             Print the transformed syntax tree instead of Markdown\n" ++
  "  -v, --verbose          Log debug output to stderr\n" ++
  "  -h, --help             Print help\n" ++
  "  -V, --version          Print version\n"

/-- Runs the command with its arguments. -/
def runCommand {m : Type → Type} [Monad m] (host : Host m) (words : List String) : m Outcome := do
  match Request.ofArguments words with
  | .error e => return .usage e
  | .ok .help => do
    host.print helpText
    return .success
  | .ok .version => do
    host.print versionText
    return .success
  | .ok (.run i) => do
    let named := (← host.environment [settingsVariable]) settingsVariable
    match i.settings.or named with
    | some "" => return .usage (.emptyValue ValueOption.settings.name)
    | settings => ({ i with settings } : Invocation).run host

end Anchormark
