import Highlighter.Text.Hex

/-!
# Sets of characters given by code ranges

A set of characters is kept as the list of its code ranges, ends included, in
ascending order and with a gap between any two.  Surrogates are no characters;
a range may reach over them, but none begins or ends among them.
-/

set_option autoImplicit false

namespace Highlighter

abbrev CodeRanges := List (Nat × Nat)

namespace CodeRanges

def contains (ranges : CodeRanges) (c : Char) : Bool :=
  ranges.any fun range => range.1 ≤ c.toNat && c.toNat ≤ range.2

/-- The code of the character before the one of code `code`. -/
def before (code : Nat) : Nat :=
  if code = 0xE000 then 0xD7FF else code - 1

/-- The code of the character after the one of code `code`. -/
def after (code : Nat) : Nat :=
  if code = 0xD7FF then 0xE000 else code + 1

/-! ## Operations -/

/-- The codes from `low` to `high` added to a set.  Ranges that touch become one. -/
def add (low high : Nat) : CodeRanges → CodeRanges
  | [] => [(low, high)]
  | (first, last) :: rest =>
    if high + 1 < first then (low, high) :: (first, last) :: rest
    else if last + 1 < low then (first, last) :: add low high rest
    else add (min low first) (max high last) rest

/-- The codes from `low` to `high` that are not in a set. -/
def outside (low high : Nat) : CodeRanges → CodeRanges
  | [] => [(low, high)]
  | (first, last) :: rest =>
    if last < low then outside low high rest
    else if high < first then [(low, high)]
    else
      (if low < first then [(low, before first)] else []) ++
        if last < high then outside (after last) high rest else []

def union (left right : CodeRanges) : CodeRanges :=
  right.foldl (fun set range => add range.1 range.2 set) left

/-- The set of given ranges in any order. -/
def ofList (ranges : List (Nat × Nat)) : CodeRanges :=
  union [] ranges

def inter (left right : CodeRanges) : CodeRanges :=
  left.flatMap fun range => right.filterMap fun other =>
    if max range.1 other.1 ≤ min range.2 other.2 then
      some (max range.1 other.1, min range.2 other.2)
    else none

def diff (left right : CodeRanges) : CodeRanges :=
  left.flatMap fun range => outside range.1 range.2 right

/-- The characters that are in one of two sets only. -/
def symmDiff (left right : CodeRanges) : CodeRanges :=
  diff (union left right) (inter left right)

def everything : CodeRanges := [(0, 0x10FFFF)]

def compl (ranges : CodeRanges) : CodeRanges :=
  diff everything ranges

/-! ## Ranges in words

A large set is written in words that are divided by spaces: `AA` for one code,
`41-5A` for a range and `100-12E/2` for every second code of a range.  All
numbers are hexadecimal.
-/

/-- The ranges of a word. -/
def ofWord (word : String) : CodeRanges :=
  match word.splitOn "-" with
  | [first, last] =>
    let first := Hex.value first.toList
    match last.splitOn "/" with
    | [last, step] =>
      let step := Hex.value step.toList
      (List.range ((Hex.value last.toList - first) / step + 1)).map fun index =>
        (first + step * index, first + step * index)
    | _ => [(first, Hex.value last.toList)]
  | _ => [(Hex.value word.toList, Hex.value word.toList)]

/-- The ranges of lines of words, which tell them in ascending order. -/
def ofLines (lines : List String) : CodeRanges :=
  lines.flatMap fun line => (line.splitOn " ").flatMap ofWord

end CodeRanges

end Highlighter
