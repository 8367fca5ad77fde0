import Highlighter.Pattern.Footprint
import Highlighter.Pattern.Matching
import Highlighter.Pattern.Reader

/-!
# Patterns anchored at the start of a text

A pattern text is set between `\A(?:` and `)` and the whole is read as a
pattern.  As long as the parentheses of the text are balanced, the pattern
matches at the start of a text only.
-/

set_option autoImplicit false

namespace Highlighter

structure Pattern where
  tree : Tree
  /-- Whether every match begins at the start of a text. -/
  isAnchored : Bool
  groupCount : Nat
  deriving DecidableEq, Repr

namespace Pattern

/-- A pattern text as a whole: anchored at the start of the text. -/
def anchored (text : List Char) : List Char :=
  ['\\', 'A', '(', '?', ':'] ++ text ++ [')']

/-- The pattern of an expression, unless it is too large. -/
def ofExpr (expr : Expr) : Except PatternError Pattern :=
  if Footprint.fits expr then
    .ok ⟨.ofExpr expr, expr.beginsWith .textStart, expr.groupCount⟩
  else .error .tooLarge

def ofText (text : String) : Except PatternError Pattern := do
  ofExpr (← PatternText.read (anchored text.toList))

/-- The match in `text` that begins earliest. -/
def find? (pattern : Pattern) (text : List Char) : Option Match :=
  pattern.tree.find? pattern.isAnchored text

end Pattern

end Highlighter
