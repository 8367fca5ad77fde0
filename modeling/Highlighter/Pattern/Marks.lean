/-!
# Sets of numbers

A finite set of numbers is kept as the number whose binary digits tell which
numbers are in it.
-/

set_option autoImplicit false

namespace Highlighter

structure Marks where
  bits : Nat
  deriving DecidableEq, Repr

namespace Marks

def empty : Marks := ⟨0⟩

def contains (marks : Marks) (number : Nat) : Bool :=
  marks.bits.testBit number

def insert (marks : Marks) (number : Nat) : Marks :=
  ⟨marks.bits ||| 1 <<< number⟩

@[simp] theorem contains_empty (number : Nat) : empty.contains number = false := by
  simp [empty, contains]

@[simp] theorem contains_insert (marks : Marks) (added number : Nat) :
    (marks.insert added).contains number = (marks.contains number || added == number) := by
  simp only [contains, insert, Nat.testBit_or, Nat.shiftLeft_eq, Nat.one_mul, Nat.testBit_two_pow]
  rfl

end Marks

end Highlighter
