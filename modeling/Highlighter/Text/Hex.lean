/-!
# Hexadecimal digits
-/

set_option autoImplicit false

namespace Highlighter.Hex

/-- The value of a digit of base sixteen, in letters of either case. -/
def digit? (c : Char) : Option Nat :=
  if '0' ≤ c ∧ c ≤ '9' then some (c.toNat - '0'.toNat)
  else if 'a' ≤ c ∧ c ≤ 'f' then some (c.toNat - 'a'.toNat + 10)
  else if 'A' ≤ c ∧ c ≤ 'F' then some (c.toNat - 'A'.toNat + 10)
  else none

def isDigit (c : Char) : Bool := (digit? c).isSome

/-- The number that digits of base sixteen write; what is no digit counts as zero. -/
def value (digits : List Char) : Nat :=
  digits.foldl (fun number c => 16 * number + (digit? c).getD 0) 0

/-- The two digits of a number below 256. -/
def pair (number : Nat) : List Char :=
  [Nat.digitChar (number / 16), Nat.digitChar (number % 16)]

end Highlighter.Hex
