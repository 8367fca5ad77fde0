import Highlighter.CommandLine.Options
import Highlighter.Failure
import Highlighter.Text.Hex
import Highlighter.Text.Quoted
import Highlighter.Scan.Steps

/-!
# The log

What a run reports on its way, and how a report is written: the words first,
and after them the facts that belong to them.  Characters that steer a terminal
are written by their codes in the words.
-/

set_option autoImplicit false

namespace Highlighter.CommandLine

inductive Event where
  /-- No configuration was asked for, and there is none in the home directory. -/
  | noConfig
  | configLoaded (path : String)
  | rulesCompiled (count : Nat)
  | highlighting (bytes : Nat) (format : Format)
  | ruleMatched (rule : String) (offset : Nat)
  | noRuleMatched (offset : Nat) (c : Char)
  | failed (cause : Failure)
  deriving DecidableEq, Repr

namespace Event

def ofStep (step : Step) : Event :=
  match step.decision with
  | .matched rule => ruleMatched rule step.offset
  | .unmatched c => noRuleMatched step.offset c

def level : Event → Level
  | noConfig => .debug
  | configLoaded _ => .info
  | rulesCompiled _ => .debug
  | highlighting _ _ => .debug
  | ruleMatched _ _ => .trace
  | noRuleMatched _ _ => .trace
  | failed _ => .error

/-- The name of a form of output in the log. -/
def formatName : Format → String
  | .ansi => "Ansi"
  | .html => "Html"
  | .tokens => "Tokens"

def words : Event → String
  | noConfig => "no config file, using defaults"
  | configLoaded _ => "loaded config"
  | rulesCompiled _ => "compiled Setanta rule table"
  | highlighting _ _ => "highlighting"
  | ruleMatched _ _ => "rule matched"
  | noRuleMatched _ _ => "no rule matched"
  | failed cause => cause.message

def facts : Event → List (String × String)
  | noConfig => []
  | configLoaded path => [("path", path)]
  | rulesCompiled count => [("rules", toString count)]
  | highlighting bytes format => [("bytes", toString bytes), ("format", formatName format)]
  | ruleMatched rule offset => [("rule", rule), ("offset", toString offset)]
  | noRuleMatched offset c =>
    [("offset", toString offset), ("character", String.ofList (Quoted.encodeOne c))]
  | failed _ => []

/-- A character of the words of a report. -/
def wordChar (c : Char) : List Char :=
  if c == '\x07' || c == '\x08' || c == '\x0c' || c == '\x1b' || c == '\x7f' then
    ['\\', 'x'] ++ Hex.pair c.toNat
  else if 0x80 ≤ c.toNat && c.toNat ≤ 0x9F then
    ['\\', 'u', '\x7b'] ++ Quoted.code c ++ ['\x7d']
  else [c]

def message (event : Event) : String :=
  String.join
    (String.ofList (event.words.toList.flatMap wordChar) ::
      event.facts.map fun (name, value) => String.join [" ", name, "=", value])

/-- Whether a report is logged where `least` is the least important level. -/
def isLogged (least : Level) (event : Event) : Bool :=
  event.level.rank ≤ least.rank

end Event

def Level.label : Level → String
  | error => "ERROR"
  | warn => "WARN"
  | info => "INFO"
  | debug => "DEBUG"
  | trace => "TRACE"

def Event.line (event : Event) : String :=
  event.level.label ++ " " ++ event.message

end Highlighter.CommandLine
