import Highlighter.Text.Blank
import Highlighter.Text.DecimalDigit
import Highlighter.Text.Fold
import Highlighter.Text.WordChar

/-!
# Sets of characters in patterns

The sets that a pattern names, over all characters or over ASCII alone.
-/

set_option autoImplicit false

namespace Highlighter

abbrev CharSet := CodeRanges

namespace CharSet

def single (c : Char) : CharSet := [(c.toNat, c.toNat)]

def range (low high : Char) : CharSet := [(low.toNat, high.toNat)]

def exceptNewline : CharSet := CodeRanges.compl (single '\n')

/-- Every character but the line feed and the carriage return. -/
def exceptLineEnds : CharSet := CodeRanges.compl [(0xA, 0xA), (0xD, 0xD)]

/-- Decimal digits, of all scripts if `unicode`. -/
def digit (unicode : Bool) : CharSet :=
  if unicode then decimalDigitRanges else [(0x30, 0x39)]

def blank (unicode : Bool) : CharSet :=
  if unicode then blankRanges else [(0x9, 0xD), (0x20, 0x20)]

def word (unicode : Bool) : CharSet :=
  if unicode then wordRanges else [(0x30, 0x39), (0x41, 0x5A), (0x5F, 0x5F), (0x61, 0x7A)]

/-- A set closed under case, over ASCII alone unless `unicode`. -/
def foldCase (unicode : Bool) (set : CharSet) : CharSet :=
  if unicode then CodeRanges.foldCase set else CodeRanges.foldAsciiCase set

def isAscii (set : CharSet) : Bool :=
  set.all fun range => range.2 < 0x80

/-- The ASCII class of a given name, as in `[[:alpha:]]`. -/
def ascii? (name : String) : Option CharSet :=
  match name with
  | "alnum" => some [(0x30, 0x39), (0x41, 0x5A), (0x61, 0x7A)]
  | "alpha" => some [(0x41, 0x5A), (0x61, 0x7A)]
  | "ascii" => some [(0x0, 0x7F)]
  | "blank" => some [(0x9, 0x9), (0x20, 0x20)]
  | "cntrl" => some [(0x0, 0x1F), (0x7F, 0x7F)]
  | "digit" => some (digit false)
  | "graph" => some [(0x21, 0x7E)]
  | "lower" => some [(0x61, 0x7A)]
  | "print" => some [(0x20, 0x7E)]
  | "punct" => some [(0x21, 0x2F), (0x3A, 0x40), (0x5B, 0x60), (0x7B, 0x7E)]
  | "space" => some (blank false)
  | "upper" => some [(0x41, 0x5A)]
  | "word" => some (word false)
  | "xdigit" => some [(0x30, 0x39), (0x41, 0x46), (0x61, 0x66)]
  | _ => none

end CharSet

end Highlighter
