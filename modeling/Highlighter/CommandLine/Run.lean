import Highlighter.CommandLine.Log
import Highlighter.Output.Ansi
import Highlighter.Output.Device
import Highlighter.Output.Html
import Highlighter.Output.Table
import Highlighter.Theme.Load

/-!
# A run of the program

A run loads the theme, reads the source, divides it into tokens and writes each
in the form asked for before it goes on with the source.  Output goes through a
buffer, which is given up at the end.
-/

set_option autoImplicit false

namespace Highlighter.CommandLine

def readSource (world : World) (options : Options) : Except FileError (List Char) :=
  match options.sourceFile? with
  | some path => world.readText path
  | none => world.inputText

/-- Writes tokens of a source in the form asked for. -/
def render {σ ι : Type} [Output σ] [TokenSource ι] (colors : Bool) (format : Format) (theme : Theme)
    (source : List Char) (tokens : ι) : Writing σ Unit :=
  match format with
  | .ansi => Ansi.render theme colors tokens
  | .html => Html.render tokens
  | .tokens => Table.render source tokens

/-- What a run writes to: standard output behind its buffer, and the log, of which these are the
steps that have been reported. -/
structure Console where
  buffer : Buffer
  steps : Array Step

namespace Console

def before (stdout : Device) : Console := ⟨.before stdout, #[]⟩

instance : Output Console where
  write console bytes :=
    match console.buffer.write bytes with
    | (buffer, failure) => ({ console with buffer }, failure)
  flush console :=
    match console.buffer.flush with
    | (buffer, failure) => ({ console with buffer }, failure)
  report console step := { console with steps := console.steps.push step }

end Console

/-- What a run leaves behind. -/
structure Result where
  code : UInt32
  stdout : Device
  /-- All reports in order; which of them are logged depends on the options. -/
  events : List Event
  deriving DecidableEq

def Result.failure (stdout : Device) (events : List Event) (cause : Failure) : Result :=
  ⟨1, stdout, events ++ [.failed cause]⟩

/-- The report of a theme that was loaded. -/
def themeEvent (world : World) (options : Options) : Event :=
  match ThemeFile.choose? world options.config with
  | some path => .configLoaded path
  | none => .noConfig

/-- Writes the tokens of a source as they are made, and reports each step that is taken for them. -/
def printSource (colors : Bool) (format : Format) (theme : Theme) (table : RuleTable)
    (source : List Char) : Writing Console Unit :=
  render colors format theme source (Stream.start table source)

/-- Writes the tokens of a source to standard output.  The buffer is given up in any case. -/
def highlight (colors : Bool) (format : Format) (theme : Theme) (table : RuleTable)
    (source : List Char) (stdout : Device) (events : List Event) : Result :=
  let (outcome, console) :=
    (printSource colors format theme table source).run (.before stdout)
  let events := events ++ [.highlighting (Utf8.size source) format]
    ++ console.steps.toList.map .ofStep
  match outcome with
  | .ok () => ⟨0, console.buffer.close, events⟩
  | .error cause => .failure console.buffer.close events (.file cause)

/-- Runs the program on a device as standard output. -/
def runOn (world : World) (options : Options) (stdout : Device) : Result :=
  match ThemeFile.load world options.config with
  | .error cause => .failure stdout [] cause
  | .ok theme =>
    let events := [themeEvent world options]
    match RuleTable.setanta with
    | .error cause => .failure stdout events cause
    | .ok table =>
      let events := events ++ [.rulesCompiled table.rules.length]
      match readSource world options with
      | .error cause => .failure stdout events (.file cause)
      | .ok source =>
        highlight world.colors options.format theme table source stdout events

/-! ## The program as it is seen -/

def versionText : String := "setanta-highlight 0.1.0\n"

def helpText : String :=
  String.join [
    "Syntax highlighter for the Setanta programming language\n\n",
    "Usage: setanta-highlight [OPTIONS] [FILE]\n\n",
    "  [FILE]                 Source file to highlight (stdin when omitted or -)\n",
    "  -f, --format <FORMAT>  Output format: ansi, html or tokens\n",
    "  -c, --config <CONFIG>  Configuration file path\n",
    "  -v, --verbose          Log more; may be repeated\n",
    "  -q, --quiet            Suppress everything but errors\n",
    "      --log <LOG>        Set log level: error, warn, info, debug or trace\n",
    "  -h, --help             Print help\n",
    "  -V, --version          Print version\n"]

/-- What can be seen of the program once it has ended. -/
structure Report where
  code : UInt32
  stdout : Device
  log : List String
  deriving DecidableEq

namespace Report

def ofText (stdout : Device) (text : String) : Report :=
  ⟨0, (stdout.write (Utf8.encode text.toList)).1, []⟩

/-- A report of a run, of which no more is logged than was asked for. -/
def ofResult (options : Options) (result : Result) : Report :=
  ⟨result.code, result.stdout,
    (result.events.filter (·.isLogged options.logLevel)).map Event.line⟩

end Report

/-- Runs the program with arguments.  Arguments that it does not understand end it with code 2. -/
def execute (world : World) (arguments : List String) (stdout : Device) : Report :=
  match parse arguments with
  | .error _ => ⟨2, stdout, []⟩
  | .ok .version => .ofText stdout versionText
  | .ok .help => .ofText stdout helpText
  | .ok (.run options) => .ofResult options (runOn world options stdout)

end Highlighter.CommandLine
