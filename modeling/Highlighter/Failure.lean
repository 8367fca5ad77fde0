import Highlighter.Pattern.Error

/-!
# Errors

Scanning never fails.  What can fail is making a rule, reading a configuration
and reading or writing a file.
-/

set_option autoImplicit false

namespace Highlighter

inductive FileError where
  | notFound
  | isDirectory
  | notDirectory
  | invalidText
  | storageFull
  /-- A path, or a name in it, is too long. -/
  | nameTooLong
  /-- A path has a character that no path may have. -/
  | badPath
  /-- A failure of another kind, in the words of the system. -/
  | other (message : String)
  deriving DecidableEq, Repr

namespace FileError

def message : FileError → String
  | notFound => "No such file or directory (os error 2)"
  | isDirectory => "Is a directory (os error 21)"
  | notDirectory => "Not a directory (os error 20)"
  | invalidText => "stream did not contain valid UTF-8"
  | storageFull => "No space left on device (os error 28)"
  | nameTooLong => "File name too long (os error 36)"
  | badPath => "file name contained an unexpected NUL byte"
  | other message => message

end FileError

inductive Failure where
  | file (cause : FileError)
  /-- The pattern of a rule is none. -/
  | pattern (rule : String) (cause : PatternError)
  /-- A rule has classes for another number of groups than its pattern has. -/
  | groupCount (rule : String) (mapped groups : Nat)
  /-- A configuration is no TOML, or does not have the form of a theme. -/
  | configuration
  | unknownTokenClass (name : String)
  | unknownColor (name : String)
  | configNotFound (path : String)
  deriving DecidableEq, Repr

namespace Failure

def message : Failure → String
  | file cause => String.join ["I/O error: ", cause.message]
  | pattern rule cause => String.join ["Invalid pattern in rule '", rule, "': ", cause.message]
  | groupCount rule mapped groups =>
    String.join ["Rule '", rule, "' maps ", toString mapped, " groups but its pattern has ",
      toString groups]
  | configuration => "Invalid configuration: this is no TOML document that describes a theme"
  | unknownTokenClass name => String.join ["Unknown token class: ", name]
  | unknownColor name => String.join ["Unknown color: ", name]
  | configNotFound path => String.join ["Config file not found: ", path]

end Failure

end Highlighter
