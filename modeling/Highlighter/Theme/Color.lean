import Highlighter.Text.Fold

/-!
# Terminal colours

The sixteen colours of a terminal's palette and its default colour.
-/

set_option autoImplicit false

namespace Highlighter

/-- The eight hues of the palette, each of which comes in two shades. -/
inductive Hue where
  | black
  | red
  | green
  | yellow
  | blue
  | magenta
  | cyan
  | white
  deriving DecidableEq, Repr

namespace Hue

def all : List Hue := [black, red, green, yellow, blue, magenta, cyan, white]

def name : Hue → String
  | black => "black"
  | red => "red"
  | green => "green"
  | yellow => "yellow"
  | blue => "blue"
  | magenta => "magenta"
  | cyan => "cyan"
  | white => "white"

def index : Hue → Nat
  | black => 0
  | red => 1
  | green => 2
  | yellow => 3
  | blue => 4
  | magenta => 5
  | cyan => 6
  | white => 7

end Hue

/-- A colour of text or of the ground behind it. -/
inductive Color where
  /-- What the terminal uses when no colour is chosen. -/
  | default
  | normal (hue : Hue)
  | bright (hue : Hue)
  deriving DecidableEq, Repr

namespace Color

def all : List Color :=
  default :: Hue.all.map normal ++ Hue.all.map bright

/-- The name of a colour in configuration files. -/
def name : Color → String
  | default => "default"
  | normal hue => hue.name
  | bright hue => "bright-" ++ hue.name

/-- The number of a colour in the terminal's palette. -/
def paletteIndex? : Color → Option Nat
  | default => none
  | normal hue => some hue.index
  | bright hue => some (hue.index + 8)

/-- The colour of a given name in lower case.  Bright black has two names more. -/
def ofLowerName? (name : String) : Option Color :=
  if name == "grey" || name == "gray" then some (bright .black)
  else all.find? fun color => color.name == name

/-- The colour of a given name, in letters of either case. -/
def ofName? (name : String) : Option Color :=
  ofLowerName? (String.ofList (name.toList.map asciiLower))

end Color

end Highlighter
