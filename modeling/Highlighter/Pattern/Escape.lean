import Highlighter.Pattern.Expr
import Highlighter.Pattern.Flags
import Highlighter.Text.Hex
import Highlighter.Text.Property

/-!
# Escapes and counts in a pattern

The parts of a pattern text that are read without regard to what stands
around them: white space and comments, decimal counts, character codes and
what follows a backslash.
-/

set_option autoImplicit false

namespace Highlighter

namespace PatternText

/-- The text after white space and after comments, which reach from a `#` to the end of the
line. -/
def afterSpace (inComment : Bool) : List Char → List Char
  | [] => []
  | c :: rest =>
    if inComment then afterSpace (c != '\n') rest
    else if isBlank c then afterSpace false rest
    else if c == '#' then afterSpace true rest
    else c :: rest

/-- The text after what the flags allow to be skipped. -/
def skip (flags : Flags) (text : List Char) : List Char :=
  if flags.spaced then afterSpace false text else text

/-- The character of a code, which is no surrogate. -/
def ofCode? (code : Nat) : Except PatternError Char :=
  if code.isValidChar then .ok (Char.ofNat code) else .error .badCode

def readDigits (flags : Flags) (code : Nat) :
    Nat → List Char → Except PatternError (Char × List Char)
  | 0, text => do return (← ofCode? code, skip flags text)
  | count + 1, text =>
    match skip flags text with
    | [] => .error .badCode
    | c :: rest =>
      match Hex.digit? c with
      | some digit => readDigits flags (16 * code + digit) count rest
      | none => .error .badCode

/-- A code of any number of digits up to a closing brace, of which `fuel` bounds the number. -/
def readBraced (flags : Flags) (code : Option Nat) :
    Nat → List Char → Except PatternError (Char × List Char)
  | 0, _ => .error .badCode
  | fuel + 1, text =>
    match skip flags text with
    | [] => .error .badCode
    | c :: rest =>
      if c == '\x7d' then
        match code with
        | some code => do return (← ofCode? code, skip flags rest)
        | none => .error .badCode
      else
        match Hex.digit? c with
        | some digit => readBraced flags (some (16 * code.getD 0 + digit)) fuel rest
        | none => .error .badCode

/-- A character code after the letter that introduces it, of `count` digits unless in braces. -/
def readCode (flags : Flags) (count : Nat) (text : List Char) :
    Except PatternError (Char × List Char) :=
  match skip flags text with
  | [] => .error .badCode
  | c :: rest =>
    if c == '\x7b' then readBraced flags none (rest.length + 1) rest
    else readDigits flags 0 count (c :: rest)

/-- Reads the digits of a count, with white space after them.  `value` is none as long as there
has been no digit. -/
def readCountDigits (flags : Flags) (value : Option Nat) :
    Nat → List Char → Option Nat × List Char
  | 0, text => (value, text)
  | fuel + 1, text =>
    match text with
    | [] => (value, [])
    | c :: rest =>
      if '0' ≤ c && c ≤ '9' then
        readCountDigits flags (some (10 * value.getD 0 + (c.toNat - '0'.toNat))) fuel
          (skip flags rest)
      else (value, text.dropWhile isBlank)

/-- A count of at most 32 bits, with white space around it. -/
def readCount (flags : Flags) (text : List Char) : Except PatternError (Nat × List Char) :=
  let text := text.dropWhile isBlank
  match readCountDigits flags none (text.length + 1) text with
  | (none, _) => .error .badCount
  | (some value, rest) =>
    if value < 0x100000000 then .ok (value, skip flags rest) else .error .badCount

def readBounds (flags : Flags) (text : List Char) :
    Except PatternError (Nat × Option Nat × List Char) := do
  let (least, rest) ← readCount flags (skip flags text)
  match rest with
  | '\x7d' :: rest => return (least, some least, skip flags rest)
  | ',' :: rest =>
    match skip flags rest with
    | [] => throw .unclosedCount
    | '\x7d' :: rest => return (least, none, skip flags rest)
    | rest =>
      match ← readCount flags rest with
      | (most, '\x7d' :: rest) =>
        if least ≤ most then return (least, some most, skip flags rest) else throw .badCount
      | _ => throw .unclosedCount
  | _ => throw .unclosedCount

/-- What a backslash and the characters after it stand for. -/
inductive Escape where
  | literal (c : Char)
  | set (set : CharSet)
  | check (assertion : Assertion)

/-! ## Sets -/

def folded (flags : Flags) (set : CharSet) : CharSet :=
  if flags.ignoreCase then set.foldCase flags.unicode else set

/-- A set or its complement, which reaches beyond ASCII. -/
def negatedIf (flags : Flags) (negated : Bool) (set : CharSet) : Except PatternError CharSet :=
  if !negated then .ok set
  else if flags.unicode then .ok set.compl
  else .error .notAscii

/-- What stands before and after the first place where `mark` stands. -/
def splitAt? (mark : List Char) : List Char → Option (List Char × List Char)
  | [] => none
  | c :: rest =>
    if mark.isPrefixOf (c :: rest) then some ([], (c :: rest).drop mark.length)
    else (splitAt? mark rest).map fun (before, after) => (c :: before, after)

/-- The set of a character property, whose name may tell a property and its value.  An inequality
sign between them stands for the equality sign. -/
def property? (name : List Char) : Option CharSet :=
  match splitAt? ['!', '='] name with
  | some (property, value) => Property.ofValue? property value
  | none =>
    match splitAt? [':'] name with
    | some (property, value) => Property.ofValue? property value
    | none =>
      match splitAt? ['='] name with
      | some (property, value) => Property.ofValue? property value
      | none => Property.ofName? name

/-- The set of a character property as the flags in force read it. -/
def propertySet (flags : Flags) (negated : Bool) (name : List Char) :
    Except PatternError CharSet :=
  if !flags.unicode then .error .notAscii
  else
    match property? name with
    | some set => negatedIf flags negated (folded flags set)
    | none => .error .badProperty

/-- Reads the name of a property to its closing brace. -/
def readPropertyName (flags : Flags) (name : List Char) :
    Nat → List Char → Except PatternError (List Char × List Char)
  | 0, _ => .error .badProperty
  | fuel + 1, text =>
    match skip flags text with
    | [] => .error .badProperty
    | c :: rest =>
      if c == '\x7d' then .ok (name.reverse, rest)
      else readPropertyName flags (c :: name) fuel rest

/-- Reads the name of a property: one letter, or a name in braces. -/
def readProperty (flags : Flags) (negated : Bool) (text : List Char) :
    Except PatternError (CharSet × List Char) := do
  match skip flags text with
  | [] => throw .badProperty
  | '\x7b' :: rest =>
    let (name, rest) ← readPropertyName flags [] (rest.length + 1) rest
    return (← propertySet flags negated name, rest)
  | '\\' :: _ => throw .badProperty
  | c :: rest => return (← propertySet flags negated [c], rest)

/-! ## Escapes -/

/-- Whether a backslash makes an ASCII character stand for itself. -/
def isEscapable (c : Char) : Bool :=
  c.toNat < 0x80 && !c.isAlphanum && c != '<' && c != '>'

/-- The condition of a given name, as in `\b{start}`. -/
def namedEdge (flags : Flags) : List Char → Except PatternError Assertion
  | ['s', 't', 'a', 'r', 't'] => .ok (.wordStart flags.unicode)
  | ['e', 'n', 'd'] => .ok (.wordEnd flags.unicode)
  | ['s', 't', 'a', 'r', 't', '-', 'h', 'a', 'l', 'f'] => .ok (.wordStartHalf flags.unicode)
  | ['e', 'n', 'd', '-', 'h', 'a', 'l', 'f'] => .ok (.wordEndHalf flags.unicode)
  | _ => .error .badEscape

/-- Whether `c` can stand in the name of a word edge. -/
def isEdgeNameChar (c : Char) : Bool :=
  c.isAlpha || c == '-'

/-- Reads the name of a word edge to its closing brace. -/
def readEdgeName (flags : Flags) (name : List Char) :
    Nat → List Char → Except PatternError (Assertion × List Char)
  | 0, _ => .error .badEscape
  | fuel + 1, text =>
    match skip flags text with
    | [] => .error .badEscape
    | c :: rest =>
      if isEdgeNameChar c then readEdgeName flags (c :: name) fuel rest
      else if c == '\x7d' then do return (← namedEdge flags name.reverse, rest)
      else .error .badEscape

/-- What `\b` stands for: a word edge, of a named kind if a name in braces follows.  Braces that
hold no name are left to be read as a count. -/
def readEdge (flags : Flags) (text : List Char) : Except PatternError (Assertion × List Char) :=
  match text with
  | '\x7b' :: rest =>
    match skip flags rest with
    | [] => .error .badEscape
    | c :: after =>
      if isEdgeNameChar c then readEdgeName flags [] (after.length + 2) (c :: after)
      else .ok (.wordEdge flags.unicode, text)
  | _ => .ok (.wordEdge flags.unicode, text)

def readEscape (flags : Flags) : List Char → Except PatternError (Escape × List Char)
  | [] => .error .badEscape
  | c :: rest =>
    match c with
    | 'x' => do
      let (code, after) ← readCode flags 2 rest
      if !flags.unicode && 0x80 ≤ code.toNat && (skip flags rest).head? != some '\x7b' then
        throw .notAscii
      return (.literal code, after)
    | 'u' => do let (code, rest) ← readCode flags 4 rest; return (.literal code, rest)
    | 'U' => do let (code, rest) ← readCode flags 8 rest; return (.literal code, rest)
    | 'd' => .ok (.set (.digit flags.unicode), rest)
    | 's' => .ok (.set (.blank flags.unicode), rest)
    | 'w' => .ok (.set (.word flags.unicode), rest)
    | 'D' => do return (.set (← negatedIf flags true (.digit flags.unicode)), rest)
    | 'S' => do return (.set (← negatedIf flags true (.blank flags.unicode)), rest)
    | 'W' => do return (.set (← negatedIf flags true (.word flags.unicode)), rest)
    | 'a' => .ok (.literal '\x07', rest)
    | 'f' => .ok (.literal '\x0c', rest)
    | 't' => .ok (.literal '\t', rest)
    | 'n' => .ok (.literal '\n', rest)
    | 'r' => .ok (.literal '\r', rest)
    | 'v' => .ok (.literal '\x0b', rest)
    | 'A' => .ok (.check .textStart, rest)
    | 'z' => .ok (.check .textEnd, rest)
    | 'b' => do let (edge, rest) ← readEdge flags rest; return (.check edge, rest)
    | 'B' => .ok (.check (.notWordEdge flags.unicode), rest)
    | '<' => .ok (.check (.wordStart flags.unicode), rest)
    | '>' => .ok (.check (.wordEnd flags.unicode), rest)
    | 'p' => do let (set, rest) ← readProperty flags false rest; return (.set set, rest)
    | 'P' => do let (set, rest) ← readProperty flags true rest; return (.set set, rest)
    | _ =>
      if c.isDigit then .error .backreference
      else if isEscapable c then .ok (.literal c, rest)
      else .error .badEscape

end PatternText

end Highlighter
