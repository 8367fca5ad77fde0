/-!
# Ranges of characters in bytes

The UTF-8 forms of the characters of a range are those that run through one
of a few rows of byte ranges, a row for every part of the range in which the
later bytes take all their values.
-/

set_option autoImplicit false

namespace Highlighter.ByteRanges

/-- Ranges of bytes, one for each byte of a character. -/
abbrev Row := List (Nat × Nat)

/-- The rows of the numbers from `low` to `high`, written with `count` digits of base 64 after the
first. -/
def digitRows : Nat → Nat → Nat → List Row
  | 0, low, high => [[(low, high)]]
  | count + 1, low, high =>
    let block := 64 ^ (count + 1)
    let first := low / block
    let last := high / block
    let within (digit low high : Nat) : List Row :=
      (digitRows count low high).map ((digit, digit) :: ·)
    if first = last then within first (low % block) (high % block)
    else
      let startsWhole := low % block = 0
      let endsWhole := high % block = block - 1
      let start := if startsWhole then first else first + 1
      let stop := if endsWhole then last + 1 else last
      (if startsWhole then [] else within first (low % block) (block - 1)) ++
        (if start < stop then [(start, stop - 1) :: List.replicate (count + 1) (0, 63)] else []) ++
        if endsWhole then [] else within last 0 (high % block)

/-- A form of UTF-8: the codes that have it, how many bytes follow the first, and what is added to
the digit in the first byte. -/
structure Form where
  low : Nat
  high : Nat
  following : Nat
  lead : Nat

/-- The forms of UTF-8.  Surrogates have none. -/
def forms : List Form :=
  [⟨0x0, 0x7F, 0, 0⟩, ⟨0x80, 0x7FF, 1, 0xC0⟩, ⟨0x800, 0xD7FF, 2, 0xE0⟩,
   ⟨0xE000, 0xFFFF, 2, 0xE0⟩, ⟨0x10000, 0x10FFFF, 3, 0xF0⟩]

/-- The bytes of a row of digits. -/
def Form.bytes (form : Form) : Row → Row
  | [] => []
  | (low, high) :: rest =>
    (form.lead + low, form.lead + high) :: rest.map fun (low, high) => (0x80 + low, 0x80 + high)

/-- The rows of the characters with codes from `low` to `high`. -/
def ofRange (low high : Nat) : List Row :=
  forms.flatMap fun form =>
    if max low form.low ≤ min high form.high then
      (digitRows form.following (max low form.low) (min high form.high)).map form.bytes
    else []

end Highlighter.ByteRanges
