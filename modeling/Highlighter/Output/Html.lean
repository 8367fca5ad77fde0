import Highlighter.Output.Writing

/-!
# Output as HTML

The tokens stand in one `pre` element, each in a `span` of the style class of
its own class, if it has one.
-/

set_option autoImplicit false

namespace Highlighter.Html

open Writing (print eachToken)

/-- Characters that have a meaning of their own in markup. -/
def isSpecial (c : Char) : Bool :=
  c == '&' || c == '<' || c == '>' || c == '"'

def escapeChar (c : Char) : List Char :=
  if c == '&' then "&amp;".toList
  else if c == '<' then "&lt;".toList
  else if c == '>' then "&gt;".toList
  else if c == '"' then "&quot;".toList
  else [c]

/-- A text as it stands in markup.  One without special characters is left as it is. -/
def escape (text : List Char) : List Char :=
  if text.any isSpecial then text.flatMap escapeChar else text

section

variable {σ : Type} [Output σ]

/-- Writes a token in the element of its class. -/
def printToken (token : Token) : Writing σ Unit :=
  let text := escape token.text
  match token.cls.styleClass? with
  | some cls => do
    print "<span class=\"cm-".toList
    print cls.toList
    print "\">".toList
    print text
    print "</span>".toList
  | none => print text

def render {ι : Type} [TokenSource ι] (tokens : ι) : Writing σ Unit := do
  print "<pre class=\"cm-s-default\">".toList
  eachToken printToken tokens
  print "</pre>\n".toList

end

end Highlighter.Html
