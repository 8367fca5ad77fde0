import Highlighter.Rule.Basic

/-!
# The rules of Setanta

The rules for the Setanta language, in the order in which they are tried.  The
header of a function comes before the keyword that begins it, and names come
last, once no reserved word has matched.
-/

set_option autoImplicit false

namespace Highlighter.Setanta

/-- The letters of names as members of a class in a pattern: the Latin letters and the vowels with
an accent. -/
def letters : String := "a-zA-ZáéíóúÁÉÍÓÚ"

/-- White space within a line. -/
def space : String := "[\\s&&[^\\n]]+"

/-- The word for a function, in its three spellings. -/
def functionWord : String := "gn(?:[ií]omh|ímh)"

def accentedVowels : List Char :=
  ['á', 'é', 'í', 'ó', 'ú', 'Á', 'É', 'Í', 'Ó', 'Ú']

/-- Whether `c` can stand in a name. -/
def isNameChar (c : Char) : Bool :=
  c.isAlpha || accentedVowels.contains c || c == '$'

/-! ## The patterns -/

/-- The word for a function, a name and, in parentheses, all up to the last closing parenthesis of
the line. -/
def functionHeaderPattern : String :=
  "(" ++ functionWord ++ ")(" ++ space ++ ")([" ++ letters ++ "]+)(\\()(.*)(\\))"

/-- The reserved words of control. -/
def keywordPattern : String :=
  functionWord ++ "|má|le|bris|idir|nuair" ++ space ++ "a|nó"

def builtinPattern : String := "scr[ií]obh"

/-- A word that opens a block, with what separates it from the block. -/
def blockKeywordPattern : String := "(má|nó)([ \x7b]|$)"

def atomPattern : String := "f[ií]or|breag"

/-- Hexadecimal numbers, and decimal ones with a sign, a fraction and an exponent. -/
def numberPattern : String :=
  "(?i:0x[0-9a-f]+|[-+]?(?:\\.[0-9]+|[0-9]+\\.?[0-9]*)(?:e[-+]?[0-9]+)?)"

def operatorPattern : String := "[-+/*=<>!]+"

def identifierPattern : String := "[" ++ letters ++ "$]+"

/-! ## The rules -/

def functionHeader : Except Failure Rule :=
  Rule.ofText "function_header" functionHeaderPattern <| .groups
    [some .definition, none, some .functionName, none, some .parameterList, none]

/-- A reserved word of control that is not the head of a longer name. -/
def keyword : Except Failure Rule :=
  (Rule.ofText "keyword" keywordPattern (.whole .keyword)).map (·.notBefore isNameChar)

/-- The reserved word for output, where it is not the head of a longer name. -/
def builtin : Except Failure Rule :=
  (Rule.ofText "builtin" builtinPattern (.whole .builtin)).map (·.notBefore isNameChar)

def blockKeyword : Except Failure Rule :=
  Rule.ofText "block_keyword" blockKeywordPattern (.groups [some .keyword, none])

/-- A truth value that is not the head of a longer name. -/
def atom : Except Failure Rule :=
  (Rule.ofText "atom" atomPattern (.whole .atom)).map (·.notBefore isNameChar)

def number : Except Failure Rule :=
  Rule.ofText "number" numberPattern (.whole .number)

def operator : Except Failure Rule :=
  Rule.ofText "operator" operatorPattern (.whole .operator)

def identifier : Except Failure Rule :=
  Rule.ofText "identifier" identifierPattern (.whole .identifier)

def rules : Except Failure (List Rule) :=
  [functionHeader, keyword, builtin, blockKeyword, atom, number, operator, identifier].mapM id

end Highlighter.Setanta
