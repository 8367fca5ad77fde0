import Highlighter.Text.Utf8

/-!
# Tokens

A token is a stretch of source text with the class it was given.
-/

set_option autoImplicit false

namespace Highlighter

/-- What a token is in the source text. -/
inductive TokenClass where
  | keyword
  | builtin
  | atom
  | number
  | operator
  /-- A name in ordinary position. -/
  | identifier
  /-- The name in the header of a function. -/
  | functionName
  /-- All that stands between the parentheses of a function header. -/
  | parameterList
  /-- The keyword that opens a function header. -/
  | definition
  /-- Text without a class of its own. -/
  | plain
  deriving DecidableEq, Repr

namespace TokenClass

def all : List TokenClass :=
  [keyword, builtin, atom, number, operator, identifier, functionName, parameterList, definition,
   plain]

/-- The name of a class in configuration files and token tables. -/
def name : TokenClass → String
  | keyword => "keyword"
  | builtin => "builtin"
  | atom => "atom"
  | number => "number"
  | operator => "operator"
  | identifier => "variable"
  | functionName => "function-name"
  | parameterList => "parameter-list"
  | definition => "definition"
  | plain => "none"

def ofName? (name : String) : Option TokenClass :=
  all.find? fun cls => cls.name == name

/-- The style class that editor widgets know a class by; plain text has none. -/
def styleClass? : TokenClass → Option String
  | keyword => some "keyword"
  | builtin => some "builtin"
  | atom => some "atom"
  | number => some "number"
  | operator => some "operator"
  | identifier => some "variable"
  | functionName => some "variable-2"
  | parameterList => some "variable-3"
  | definition => some "def"
  | plain => none

theorem ofName?_name (cls : TokenClass) : ofName? cls.name = some cls := by
  cases cls <;> decide

end TokenClass

/-- A classified stretch of the source, from byte `start` up to byte `stop`. -/
structure Token where
  cls : TokenClass
  text : List Char
  start : Nat
  stop : Nat
  deriving DecidableEq, Repr

namespace Token

/-- The token of a text that begins at `start`. -/
def ofText (cls : TokenClass) (text : List Char) (start : Nat) : Token :=
  ⟨cls, text, start, start + Utf8.size text⟩

def length (token : Token) : Nat := token.stop - token.start

def isEmpty (token : Token) : Bool := token.start == token.stop

/-- The same token `offset` bytes further on. -/
def shift (offset : Nat) (token : Token) : Token :=
  { token with start := token.start + offset, stop := token.stop + offset }

end Token

end Highlighter
