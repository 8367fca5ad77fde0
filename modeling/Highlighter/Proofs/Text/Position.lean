import Highlighter.Proofs.Text.Boundaries
import Highlighter.Text.Position

/-!
# Positions, computed and read

The position of the end of a piece of text is the one a walk over the piece leads
to.  A position is written as two numbers with a colon between them, and a reader
finds the numbers again.
-/

set_option autoImplicit false

namespace Highlighter.Position

/-- Clamped to the end and stepped back, an offset is the end of the longest beginning that does
not reach past it. -/
theorem ofOffsetWith_eq (width : Char → Nat) (text : List Char) (offset : Nat) :
    ofOffsetWith width text offset = start.walk width (Utf8.takeWithin offset text) := by
  rw [ofOffsetWith, Utf8.take?_stepBack]

theorem ofOffsetWith_size_append (width : Char → Nat) (first second : List Char) :
    ofOffsetWith width (first ++ second) (Utf8.size first) = start.walk width first := by
  rw [ofOffsetWith_eq, Utf8.takeWithin_size_append]

/-- Without a line feed a walk stays in its line. -/
theorem walk_line {segment : List Char} (inLine : '\n' ∉ segment) (width : Char → Nat)
    (position : Position) : (position.walk width segment).line = position.line := by
  induction segment generalizing position with
  | nil => rfl
  | cons c rest inductionHypothesis =>
    rw [List.mem_cons, not_or] at inLine
    rw [walk_cons, inductionHypothesis inLine.2, step, if_neg (Ne.symm inLine.1)]

/-- Over a line with the line feed that ends it, a walk leads to the start of the next one. -/
theorem walk_newline {segment : List Char} (inLine : '\n' ∉ segment) (width : Char → Nat)
    (position : Position) :
    position.walk width (segment ++ ['\n']) = ⟨position.line + 1, 1⟩ := by
  rw [walk_append, walk_cons, walk_nil, step, if_pos rfl, walk_line inLine]

/-! ## Reading -/

def number? (digits : List Char) : Option Nat :=
  if digits ≠ [] ∧ digits.all Char.isDigit then some (Nat.ofDigitChars 10 digits 0) else none

/-- The position that a text shows. -/
def read? (text : List Char) : Option Position :=
  match text.splitOn ':' with
  | [line, column] => do return ⟨← number? line, ← number? column⟩
  | _ => none

theorem isDigit_of_mem_toDigits {number : Nat} {c : Char} (member : c ∈ Nat.toDigits 10 number) :
    c.isDigit :=
  Nat.isDigit_of_mem_toDigits (by decide) (by decide) member

theorem number?_toDigits (number : Nat) : number? (Nat.toDigits 10 number) = some number := by
  have digits : (Nat.toDigits 10 number).all Char.isDigit :=
    List.all_eq_true.mpr fun _ => isDigit_of_mem_toDigits
  rw [number?, if_pos ⟨Nat.toDigits_ne_nil, digits⟩,
    Nat.ofDigitChars_toDigits (by decide) (by decide)]

theorem read?_format (position : Position) : read? position.format = some position := by
  have undivided (number : Nat) : ':' ∉ Nat.toDigits 10 number := fun member =>
    absurd (isDigit_of_mem_toDigits member) (by decide)
  have parts : position.format.splitOn ':'
      = [Nat.toDigits 10 position.line, Nat.toDigits 10 position.column] := by
    rw [format, List.append_assoc, List.singleton_append,
      List.splitOn_append_cons_self_of_not_mem (undivided _),
      List.splitOn_eq_singleton (undivided _)]
  simp [read?, parts, number?_toDigits]

/-- A position is written with digits and the colon only. -/
theorem not_mem_format {c : Char} (other : ¬ c.isDigit ∧ c ≠ ':') (position : Position) :
    c ∉ position.format := by
  have undivided (number : Nat) : c ∉ Nat.toDigits 10 number := fun member =>
    other.1 (isDigit_of_mem_toDigits member)
  simp [format, undivided, other.2]

end Highlighter.Position
