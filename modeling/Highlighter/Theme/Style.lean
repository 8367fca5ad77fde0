import Highlighter.Theme.Color
import Highlighter.Token.Basic

/-!
# Styles and themes

A style says how text is drawn, and a theme gives every token class a style.
-/

set_option autoImplicit false

namespace Highlighter

structure Style where
  foreground : Color
  background : Color
  bold : Bool
  italic : Bool
  underline : Bool
  deriving DecidableEq, Repr

namespace Style

/-- Text as the terminal draws it by default. -/
def default : Style := ⟨.default, .default, false, false, false⟩

def colored (color : Color) : Style := { default with foreground := color }

def withForeground (style : Style) (color : Color) : Style := { style with foreground := color }

def withBackground (style : Style) (color : Color) : Style := { style with background := color }

def withBold (style : Style) : Style := { style with bold := true }

def isDefault (style : Style) : Bool := style == default

end Style

namespace TokenClass

/-- The style of a class where no theme says otherwise. -/
def defaultStyle : TokenClass → Style
  | keyword => (Style.colored (.normal .magenta)).withBold
  | builtin => .colored (.bright .magenta)
  | atom => .colored (.normal .blue)
  | number => .colored (.normal .green)
  | operator => .colored (.bright .white)
  | identifier => .default
  | functionName => .colored (.bright .blue)
  | parameterList => .colored (.normal .cyan)
  | definition => (Style.colored (.normal .blue)).withBold
  | plain => .default

end TokenClass

structure Theme where
  style : TokenClass → Style

namespace Theme

def default : Theme := ⟨TokenClass.defaultStyle⟩

def set (theme : Theme) (cls : TokenClass) (style : Style) : Theme :=
  ⟨fun other => if other = cls then style else theme.style other⟩

/-- Whether two themes give every class the same style. -/
def sameStyles (left right : Theme) : Bool :=
  TokenClass.all.all fun cls => left.style cls == right.style cls

def isDefault (theme : Theme) : Bool := theme.sameStyles default

end Theme

end Highlighter
