import Highlighter.Text.Hex

/-!
# Strings and keys of TOML

The four kinds of strings and the keys.  Each reader takes the text from where
its part begins and returns the part with the text after it.
-/

set_option autoImplicit false

namespace Highlighter.Toml

/-- Whether `c` is white space within a line. -/
def isSpace (c : Char) : Bool := c == ' ' || c == '\t'

def skipSpace (text : List Char) : List Char := text.dropWhile isSpace

/-- Whether `c` may stand for itself in strings and comments. -/
def isPrintable (c : Char) : Bool := c == '\t' || (0x20 ≤ c.toNat && c.toNat != 0x7F)

/-- The text after the end of a line, if the line ends here. -/
def newline? : List Char → Option (List Char)
  | '\n' :: rest => some rest
  | '\r' :: '\n' :: rest => some rest
  | _ => none

/-- The character whose code is written in `count` hexadecimal digits. -/
def readCode? (code : Nat) : Nat → List Char → Option (Char × List Char)
  | 0, text => if code.isValidChar then some (Char.ofNat code, text) else none
  | _ + 1, [] => none
  | count + 1, c :: rest => do readCode? (16 * code + (← Hex.digit? c)) count rest

/-- The character that a backslash and what follows it stand for. -/
def readEscape? : List Char → Option (Char × List Char)
  | 'b' :: rest => some ('\x08', rest)
  | 't' :: rest => some ('\t', rest)
  | 'n' :: rest => some ('\n', rest)
  | 'f' :: rest => some ('\x0c', rest)
  | 'r' :: rest => some ('\r', rest)
  | '"' :: rest => some ('"', rest)
  | '\\' :: rest => some ('\\', rest)
  | 'u' :: rest => readCode? 0 4 rest
  | 'U' :: rest => readCode? 0 8 rest
  | _ => none

/-- A string of one line after its opening quote.  `content` is what it holds so far, the latest
first, and `escapes` tells whether the backslash is special. -/
def readLine? (quote : Char) (escapes : Bool) (content : List Char) :
    Nat → List Char → Option (String × List Char)
  | 0, _ => none
  | _ + 1, [] => none
  | fuel + 1, c :: rest =>
    if c == quote then some (String.ofList content.reverse, rest)
    else if escapes && c == '\\' then do
      let (c, rest) ← readEscape? rest
      readLine? quote escapes (c :: content) fuel rest
    else if isPrintable c then readLine? quote escapes (c :: content) fuel rest
    else none

def skipBlankLines : List Char → List Char
  | [] => []
  | '\r' :: '\n' :: rest => skipBlankLines rest
  | c :: rest => if isSpace c || c == '\n' then skipBlankLines rest else c :: rest

/-- A string of several lines after its opening quotes.  Up to two quotes may stand before the three
that close it, and a line end counts as a line feed. -/
def readLines? (quote : Char) (escapes : Bool) (content : List Char) :
    Nat → List Char → Option (String × List Char)
  | 0, _ => none
  | _ + 1, [] => none
  | fuel + 1, c :: rest =>
    if c == quote then
      let quotes := (c :: rest).takeWhile (· == quote)
      if quotes.length < 3 then
        readLines? quote escapes (quotes ++ content) fuel ((c :: rest).drop quotes.length)
      else
        let closing := min quotes.length 5
        some (String.ofList (content.reverse ++ quotes.take (closing - 3)),
          (c :: rest).drop closing)
    else if escapes && c == '\\' then
      match newline? (skipSpace rest) with
      | some rest => readLines? quote escapes content fuel (skipBlankLines rest)
      | none => do
        let (c, rest) ← readEscape? rest
        readLines? quote escapes (c :: content) fuel rest
    else
      match newline? (c :: rest) with
      | some rest => readLines? quote escapes ('\n' :: content) fuel rest
      | none => if isPrintable c then readLines? quote escapes (c :: content) fuel rest else none

/-- A string of any kind from its opening quote on.  A line end directly after three opening quotes
does not count. -/
def readString? (quote : Char) (text : List Char) : Option (String × List Char) :=
  let escapes := quote == '"'
  let fuel := text.length + 1
  match text with
  | first :: second :: third :: rest =>
    if first == quote && second == quote && third == quote then
      readLines? quote escapes [] fuel ((newline? rest).getD rest)
    else readLine? quote escapes [] fuel (second :: third :: rest)
  | _ :: rest => readLine? quote escapes [] fuel rest
  | [] => none

/-- Whether `c` can stand in a key without quotes. -/
def isBareKeyChar (c : Char) : Bool := c.isAlphanum || c == '_' || c == '-'

def readKeyPart? (text : List Char) : Option (String × List Char) :=
  let fuel := text.length + 1
  match text with
  | '"' :: rest => readLine? '"' true [] fuel rest
  | '\'' :: rest => readLine? '\'' false [] fuel rest
  | _ =>
    let part := text.takeWhile isBareKeyChar
    if part.isEmpty then none else some (String.ofList part, text.dropWhile isBareKeyChar)

/-- The parts of a key, with dots between them and white space around them: those before the last,
the last and the text after it. -/
def readKeyParts? : Nat → List Char → Option (List String × String × List Char)
  | 0, _ => none
  | fuel + 1, text => do
    let (part, rest) ← readKeyPart? (skipSpace text)
    match skipSpace rest with
    | '.' :: rest =>
      let (path, last, rest) ← readKeyParts? fuel rest
      return (part :: path, last, rest)
    | rest => return ([], part, rest)

/-- How many levels of nesting are too many. -/
def nestLimit : Nat := 80

/-- A key of one or more parts, which are fewer than the limit of nesting. -/
def readKey? (text : List Char) : Option (List String × String × List Char) := do
  let (path, last, rest) ← readKeyParts? (text.length + 1) text
  if path.length + 1 < nestLimit then return (path, last, rest) else none

end Highlighter.Toml
