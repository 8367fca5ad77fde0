import Highlighter.World.Path

/-!
# Arguments of the command line

Options have a long name and most a short one.  Short options can be put
together behind one hyphen, and the value of an option can be attached to it.
Two hyphens alone end the options.  The arguments are read from left to right,
and the first fault, or the first request for help or the version, decides.
-/

set_option autoImplicit false

namespace Highlighter.CommandLine

inductive Format where
  | ansi
  | html
  | tokens
  deriving DecidableEq, Repr

namespace Format

def ofName? (name : String) : Option Format :=
  match name with
  | "ansi" => some ansi
  | "html" => some html
  | "tokens" => some tokens
  | _ => none

end Format

/-- How important a message of the log is, the most important first. -/
inductive Level where
  | error
  | warn
  | info
  | debug
  | trace
  deriving DecidableEq, Repr

namespace Level

def ofName? (name : String) : Option Level :=
  match name with
  | "error" => some error
  | "warn" => some warn
  | "info" => some info
  | "debug" => some debug
  | "trace" => some trace
  | _ => none

/-- The place of a level in the order of importance. -/
def rank : Level → Nat
  | error => 0
  | warn => 1
  | info => 2
  | debug => 3
  | trace => 4

end Level

structure Options where
  /-- The source file; standard input if there is none or a hyphen. -/
  file : Option String
  format : Format
  config : Option String
  /-- How often more messages were asked for. -/
  verbosity : Nat
  quiet : Bool
  level : Option Level
  deriving DecidableEq, Repr

namespace Options

def logLevel (options : Options) : Level :=
  match options.level with
  | some level => level
  | none =>
    if options.quiet then .error
    else
      match options.verbosity with
      | 0 => .warn
      | 1 => .info
      | 2 => .debug
      | _ => .trace

def sourceFile? (options : Options) : Option String :=
  options.file.filter fun path => !Path.isJust ['-'] path.toList

end Options

inductive Request where
  | run (options : Options)
  | version
  | help
  deriving DecidableEq, Repr

inductive UsageError where
  | unknownOption
  | repeatedOption
  | missingValue
  | badValue
  /-- A value attached to an option that takes none. -/
  | unexpectedValue
  | extraArgument
  deriving DecidableEq, Repr

namespace UsageError

def message : UsageError → String
  | unknownOption => "there is no such option"
  | repeatedOption => "an option is given twice"
  | missingValue => "an option lacks its value"
  | badValue => "a value is not possible here"
  | unexpectedValue => "an option takes no value"
  | extraArgument => "there is more than one file"

end UsageError

structure Draft where
  file : Option String
  format : Option Format
  config : Option String
  verbosity : Nat
  quiet : Bool
  level : Option Level
  deriving DecidableEq, Repr

namespace Draft

def empty : Draft := ⟨none, none, none, 0, false, none⟩

def finish (draft : Draft) : Options :=
  ⟨draft.file, draft.format.getD .ansi, draft.config, draft.verbosity, draft.quiet, draft.level⟩

def setFile (draft : Draft) (name : String) : Except UsageError Draft :=
  if draft.file.isSome then .error .extraArgument
  else if name.isEmpty then .error .badValue
  else .ok { draft with file := some name }

def setQuiet (draft : Draft) : Except UsageError Draft :=
  if draft.quiet then .error .repeatedOption else .ok { draft with quiet := true }

end Draft

inductive ValueOption where
  | format
  | config
  | level
  deriving DecidableEq, Repr

inductive Flag where
  | verbose
  | quiet
  | version
  | help
  deriving DecidableEq, Repr

inductive OptionName where
  | valued (option : ValueOption)
  | flag (flag : Flag)
  deriving DecidableEq, Repr

namespace OptionName

def ofLong? (name : String) : Option OptionName :=
  match name with
  | "format" => some (valued .format)
  | "config" => some (valued .config)
  | "log" => some (valued .level)
  | "verbose" => some (flag .verbose)
  | "quiet" => some (flag .quiet)
  | "version" => some (flag .version)
  | "help" => some (flag .help)
  | _ => none

def ofShort? (letter : Char) : Option OptionName :=
  match letter with
  | 'f' => some (valued .format)
  | 'c' => some (valued .config)
  | 'v' => some (flag .verbose)
  | 'q' => some (flag .quiet)
  | 'V' => some (flag .version)
  | 'h' => some (flag .help)
  | _ => none

end OptionName

namespace Draft

def setValue (draft : Draft) (option : ValueOption) (value : String) : Except UsageError Draft :=
  match option with
  | .format =>
    if draft.format.isSome then .error .repeatedOption
    else
      match Format.ofName? value with
      | some format => .ok { draft with format := some format }
      | none => .error .badValue
  | .config =>
    if draft.config.isSome then .error .repeatedOption
    else if value.isEmpty then .error .badValue
    else .ok { draft with config := some value }
  | .level =>
    if draft.level.isSome then .error .repeatedOption
    else
      match Level.ofName? value with
      | some level => .ok { draft with level := some level }
      | none => .error .badValue

end Draft

/-- How far an argument has been read. -/
inductive Progress where
  | read (draft : Draft)
  /-- To an option whose value is the next argument. -/
  | awaiting (draft : Draft) (option : ValueOption)
  /-- To a flag that decides what is asked for. -/
  | decided (request : Request)

namespace Progress

def ofFlag (draft : Draft) : Flag → Except UsageError Progress
  | .verbose => .ok (read { draft with verbosity := draft.verbosity + 1 })
  | .quiet => draft.setQuiet.map read
  | .version => .ok (decided .version)
  | .help => .ok (decided .help)

end Progress

/-- Reads the letters after a hyphen.  What follows the letter of an option with a value is the
value, with or without an equals sign before it. -/
def readShort (draft : Draft) : List Char → Except UsageError Progress
  | [] => .ok (.read draft)
  | letter :: rest =>
    match OptionName.ofShort? letter with
    | none => .error .unknownOption
    | some (.valued option) =>
      match rest with
      | [] => .ok (.awaiting draft option)
      | '=' :: value => (draft.setValue option (String.ofList value)).map .read
      | value => (draft.setValue option (String.ofList value)).map .read
    | some (.flag flag) =>
      match Progress.ofFlag draft flag with
      | .ok (.read draft) => readShort draft rest
      | result => result

def readLong (draft : Draft) (text : List Char) : Except UsageError Progress :=
  match OptionName.ofLong? (String.ofList (text.takeWhile (· != '='))),
    text.dropWhile (· != '=') with
  | none, _ => .error .unknownOption
  | some (.valued option), [] => .ok (.awaiting draft option)
  | some (.valued option), _ :: value => (draft.setValue option (String.ofList value)).map .read
  | some (.flag flag), [] => Progress.ofFlag draft flag
  | some (.flag _), _ :: _ => .error .unexpectedValue

/-- Whether an argument can be the value of the option before it. -/
def isValue (argument : String) : Bool :=
  argument == "-" || !argument.startsWith "-"

def readFiles (draft : Draft) : List String → Except UsageError Request
  | [] => .ok (.run draft.finish)
  | argument :: arguments =>
    match draft.setFile argument with
    | .ok draft => readFiles draft arguments
    | .error fault => .error fault

def readArguments (draft : Draft) : List String → Except UsageError Request
  | [] => .ok (.run draft.finish)
  | argument :: arguments =>
    let progress :=
      match argument.toList with
      | '-' :: '-' :: text => readLong draft text
      | '-' :: letter :: letters => readShort draft (letter :: letters)
      | _ => (draft.setFile argument).map .read
    if argument == "--" then readFiles draft arguments
    else
      match progress with
      | .error fault => .error fault
      | .ok (.decided request) => .ok request
      | .ok (.read draft) => readArguments draft arguments
      | .ok (.awaiting draft option) =>
        match arguments with
        | [] => .error .missingValue
        | value :: arguments =>
          if isValue value then
            match draft.setValue option value with
            | .ok draft => readArguments draft arguments
            | .error fault => .error fault
          else .error .missingValue

def parse (arguments : List String) : Except UsageError Request :=
  readArguments .empty arguments

end Highlighter.CommandLine
