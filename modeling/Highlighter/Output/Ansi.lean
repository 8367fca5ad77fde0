import Highlighter.Output.Writing
import Highlighter.Theme.Style

/-!
# Output for terminals

Each token is written between control sequences that switch its style on and
all styles off.  Tokens of the default style are written bare.
-/

set_option autoImplicit false

namespace Highlighter.Ansi

open Writing (print printAll flush when eachToken)

def colorCode (color : Color) : List Char :=
  match color.paletteIndex? with
  | some index => ['5', ';'] ++ Nat.toDigits 10 index
  | none => []

/-- The parameters that choose a colour, in two parts: what it is for and which it is.  Where colours
are not wanted there are none, which is the sequence that ends all styles. -/
def colorParameters (colors : Bool) (use : List Char) (color : Color) : List (List Char) :=
  if colors then [use ++ [';'], colorCode color] else []

section

variable {σ : Type} [Output σ]

/-- Writes a control sequence, part by part. -/
def printSequence (parameters : List (List Char)) : Writing σ Unit :=
  printAll (['\x1b', '['] :: (parameters ++ [['m']]))

def printColor (colors : Bool) (use : List Char) (color : Color) : Writing σ Unit :=
  when (color != .default) (printSequence (colorParameters colors use color))

/-- Switches a style on. -/
def printStyle (colors : Bool) (style : Style) : Writing σ Unit := do
  printColor colors ['3', '8'] style.foreground
  printColor colors ['4', '8'] style.background
  when style.bold (printSequence [['1']])
  when style.italic (printSequence [['3']])
  when style.underline (printSequence [['4']])

/-- Switches all styles off, and the colours once more by a sequence that is not in parts. -/
def printReset : Writing σ Unit := do
  printSequence [['0']]
  print ['\x1b', '[', '0', 'm']

/-- Writes a token in the style of its class. -/
def printToken (theme : Theme) (colors : Bool) (token : Token) : Writing σ Unit :=
  let style := theme.style token.cls
  if style.isDefault then print token.text
  else do
    printStyle colors style
    print token.text
    printReset

/-- Writes tokens in the styles of a theme, with or without colours. -/
def render {ι : Type} [TokenSource ι] (theme : Theme) (colors : Bool) (tokens : ι) :
    Writing σ Unit := do
  eachToken (printToken theme colors) tokens
  flush

end

end Highlighter.Ansi
