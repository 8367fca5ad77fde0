import Highlighter.Text.Hex
import Highlighter.Toml.Value

/-!
# Numbers, dates and truth values of TOML

A value that is no string, array or table is a run of letters, digits and a few
signs; what kind it is depends on its form.
-/

set_option autoImplicit false

namespace Highlighter.Toml

/-- Whether a text consists of digits, with single underscores between them at most. -/
def isGrouped (isDigit : Char → Bool) : List Char → Bool
  | [] => false
  | [c] => isDigit c
  | c :: '_' :: rest => isDigit c && isGrouped isDigit rest
  | c :: rest => isDigit c && isGrouped isDigit rest

def isDecimal (text : List Char) : Bool := isGrouped Char.isDigit text

def isWholeNumber (text : List Char) : Bool :=
  isDecimal text && (text.length == 1 || text.head? != some '0')

/-- The number that digits of a base make; other characters do not count. -/
def numberOf (base : Nat) (text : List Char) : Nat :=
  (text.filterMap Hex.digit?).foldl (fun number digit => base * number + digit) 0

/-- A text after its sign, and whether the sign is a minus. -/
def splitSign : List Char → Bool × List Char
  | '-' :: rest => (true, rest)
  | '+' :: rest => (false, rest)
  | rest => (false, rest)

/-- A value of 64 bits. -/
def integer? (value : Int) : Option Value :=
  if -0x8000000000000000 ≤ value ∧ value < 0x8000000000000000 then some (.integer value) else none

/-- An integer, decimal with or without a sign, or of another base that its beginning names. -/
def readInteger? : List Char → Option Value
  | '0' :: 'x' :: digits =>
    if isGrouped Hex.isDigit digits then integer? (numberOf 16 digits) else none
  | '0' :: 'o' :: digits =>
    if isGrouped (fun c => '0' ≤ c && c ≤ '7') digits then integer? (numberOf 8 digits) else none
  | '0' :: 'b' :: digits =>
    if isGrouped (fun c => c == '0' || c == '1') digits then integer? (numberOf 2 digits) else none
  | text =>
    let (negative, digits) := splitSign text
    if isWholeNumber digits then
      integer? (if negative then -(numberOf 10 digits : Int) else numberOf 10 digits)
    else none

/-- A number with a fraction, an exponent or both. -/
structure Decimal where
  negative : Bool
  digits : Nat
  /-- The power of ten that the last digit stands for. -/
  exponent : Int
  deriving DecidableEq, Repr

namespace Decimal

def exponent? (text : List Char) : Option Int :=
  let (negative, digits) := splitSign text
  if isDecimal digits then
    some (if negative then -(numberOf 10 digits : Int) else numberOf 10 digits)
  else none

def isExponentMark (c : Char) : Bool := c == 'e' || c == 'E'

def ofText? (text : List Char) : Option Decimal :=
  let (negative, text) := splitSign text
  let whole := text.takeWhile fun c => !(c == '.' || isExponentMark c)
  if isWholeNumber whole then
    match text.dropWhile fun c => !(c == '.' || isExponentMark c) with
    | [] => none
    | '.' :: rest =>
      let fraction := rest.takeWhile fun c => !isExponentMark c
      let places := (fraction.filter Char.isDigit).length
      if isDecimal fraction then
        match rest.dropWhile fun c => !isExponentMark c with
        | [] => some ⟨negative, numberOf 10 (whole ++ fraction), -places⟩
        | _ :: exponent =>
          (exponent? exponent).map fun exponent =>
            ⟨negative, numberOf 10 (whole ++ fraction), exponent - places⟩
      else none
    | _ :: exponent =>
      (exponent? exponent).map fun exponent => ⟨negative, numberOf 10 whole, exponent⟩
  else none

/-- Whether a number is positive and too large for a binary number of 64 bits: it is at least half
way from the largest of those to the next power of two. -/
def isTooLarge (decimal : Decimal) : Bool :=
  let bound := Nat.pow 2 1024 - Nat.pow 2 970
  let size := (Nat.toDigits 10 decimal.digits).length + decimal.exponent
  if decimal.negative || decimal.digits = 0 || size < 309 then false
  else if 309 < size then true
  else if decimal.exponent < 0 then
    bound * Nat.pow 10 decimal.exponent.natAbs ≤ decimal.digits
  else bound ≤ decimal.digits * Nat.pow 10 decimal.exponent.natAbs

end Decimal

/-- Whether a text stands for what no digits write: infinity, or no number at all. -/
def isUnwritten (text : List Char) : Bool :=
  let text := (splitSign text).2
  text == ['i', 'n', 'f'] || text == ['n', 'a', 'n']

/-- The number that exactly `count` digits make, and the text after them. -/
def readFixed? (count : Nat) (text : List Char) : Option (Nat × List Char) :=
  let digits := text.take count
  if digits.length = count ∧ digits.all Char.isDigit then
    some (numberOf 10 digits, text.drop count)
  else none

def daysOf (year month : Nat) : Nat :=
  if month = 2 then
    if year % 4 = 0 ∧ (year % 100 ≠ 0 ∨ year % 400 = 0) then 29 else 28
  else if [4, 6, 9, 11].contains month then 30
  else 31

def afterDate? (text : List Char) : Option (List Char) := do
  match ← readFixed? 4 text with
  | (year, '-' :: rest) =>
    match ← readFixed? 2 rest with
    | (month, '-' :: rest) =>
      let (day, rest) ← readFixed? 2 rest
      if 1 ≤ month ∧ month ≤ 12 ∧ 1 ≤ day ∧ day ≤ daysOf year month then return rest else none
    | _ => none
  | _ => none

def afterTime? (text : List Char) : Option (List Char) := do
  match ← readFixed? 2 text with
  | (hour, ':' :: rest) =>
    match ← readFixed? 2 rest with
    | (minute, ':' :: rest) =>
      let (second, rest) ← readFixed? 2 rest
      if hour ≤ 23 ∧ minute ≤ 59 ∧ second ≤ 60 then
        match rest with
        | '.' :: fraction =>
          if fraction.head?.any Char.isDigit then return fraction.dropWhile Char.isDigit else none
        | rest => return rest
      else none
    | _ => none
  | _ => none

def isTimeOffset : List Char → Bool
  | ['Z'] => true
  | ['z'] => true
  | sign :: rest =>
    (sign == '+' || sign == '-') &&
      match readFixed? 2 rest with
      | some (hour, ':' :: rest) =>
        match readFixed? 2 rest with
        | some (minute, []) => hour ≤ 23 && minute ≤ 59
        | _ => false
      | _ => false
  | [] => false

/-- Whether a text is a date, a time, or a date and a time with or without an offset. -/
def isDateTime (text : List Char) : Bool :=
  match afterDate? text with
  | some [] => true
  | some (separator :: rest) =>
    (separator == 'T' || separator == 't' || separator == ' ') &&
      match afterTime? rest with
      | some [] => true
      | some offset => isTimeOffset offset
      | none => false
  | none => afterTime? text == some []

/-- The value that a run of characters makes. -/
def ofRun? (run : List Char) : Option Value :=
  if run == ['t', 'r', 'u', 'e'] then some (.boolean true)
  else if run == ['f', 'a', 'l', 's', 'e'] then some (.boolean false)
  else if isDateTime run then some (.dateTime (String.ofList run))
  else if isUnwritten run then some (.float (String.ofList run))
  else
    match Decimal.ofText? run with
    | some decimal => if decimal.isTooLarge then none else some (.float (String.ofList run))
    | none => readInteger? run

/-- Whether `c` can stand in such a run. -/
def isRunChar (c : Char) : Bool :=
  c.isAlphanum || c == '+' || c == '-' || c == '_' || c == '.' || c == ':'

/-- A value that is no string, array or table.  A date and a time may have a space between them. -/
def readScalar? (text : List Char) : Option (Value × List Char) :=
  let run := text.takeWhile isRunChar
  match text.dropWhile isRunChar with
  | ' ' :: c :: rest =>
    if c.isDigit && (afterDate? run).any (·.isEmpty) then
      let time := (c :: rest).takeWhile isRunChar
      (ofRun? (run ++ [' '] ++ time)).map fun value => (value, (c :: rest).dropWhile isRunChar)
    else (ofRun? run).map fun value => (value, ' ' :: c :: rest)
  | rest => (ofRun? run).map fun value => (value, rest)

end Highlighter.Toml
