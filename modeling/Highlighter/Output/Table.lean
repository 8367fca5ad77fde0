import Highlighter.Output.Writing
import Highlighter.Text.Position
import Highlighter.Text.Quoted

/-!
# Output as a table

Each token has a row with its position, the name of its class and its text in
quotes, divided by tabs.  Each part of a row is written by itself.
-/

set_option autoImplicit false

namespace Highlighter.Table

open Writing (print foldTokens)

variable {σ : Type} [Output σ]

def printPosition (position : Position) : Writing σ Unit := do
  print (Nat.toDigits 10 position.line)
  print [':']
  print (Nat.toDigits 10 position.column)

/-- Writes a quoted text from within: characters that stand for themselves in runs, of which the
first is given with its last character first, and all others one by one. -/
def printRuns (run : List Char) : List Char → Writing σ Unit
  | [] => print run.reverse
  | c :: rest =>
    if (Quoted.encodeChar '"' c).length = 1 then printRuns (c :: run) rest
    else do
      print run.reverse
      print (Quoted.encodeChar '"' c)
      printRuns [] rest

def printQuoted (text : List Char) : Writing σ Unit := do
  print ['"']
  printRuns [] text
  print ['"']

/-- Writes the row of a token that stands at a position. -/
def printRow (position : Position) (token : Token) : Writing σ Unit := do
  printPosition position
  print ['\t']
  print token.cls.name.toList
  print ['\t']
  printQuoted token.text
  print ['\n']

/-- The position of a token, given the widths of characters and where the token before it ended: at
a position and at a byte of the source.  The text between the two tokens counts. -/
def place (width : Char → Nat) (source : List Char) (position : Position) (offset : Nat)
    (token : Token) : Position :=
  match Utf8.slice? source offset token.start with
  | some skipped => position.walk width skipped
  | none => position

/-- Writes the row of a token and comes to where the token ends. -/
def printToken (width : Char → Nat) (source : List Char) :
    Position × Nat → Token → Writing σ (Position × Nat)
  | (position, offset), token => do
    let position := place width source position offset token
    printRow position token
    return (position.walk width token.text, token.stop)

variable {ι : Type} [TokenSource ι]

/-- Writes a table of tokens of a source, given the widths of characters. -/
def renderWith (width : Char → Nat) (source : List Char) (tokens : ι) : Writing σ Unit := do
  let _ ← foldTokens (printToken width source) (.start, 0) tokens

def render (source : List Char) (tokens : ι) : Writing σ Unit :=
  renderWith displayWidth source tokens

end Highlighter.Table
