import Highlighter.Proofs.Text.Position
import Mathlib.Algebra.GroupWithZero.Nat
import Mathlib.Data.List.DropRight

/-!
# Positions by counting

The position of a byte is told by the longest beginning of the text that ends at a
character and does not reach past the byte.  The line feeds in it are the lines before,
and what comes after the last of them makes the column.
-/

set_option autoImplicit false

namespace Highlighter

/-- The longest beginning of a text that takes no more than `limit` bytes. -/
structure Utf8.IsLongestWithin (limit : Nat) (text front : List Char) : Prop where
  begins : front <+: text
  fits : Utf8.size front ≤ limit
  longest : ∀ other, other <+: text → Utf8.size other ≤ limit → other <+: front

namespace Utf8

theorem takeWithin_longest (limit : Nat) (text : List Char) :
    IsLongestWithin limit text (takeWithin limit text) where
  begins := (takeWithin_fits limit text).1
  fits := (takeWithin_fits limit text).2
  longest _ begins fits := prefix_takeWithin begins fits

end Utf8

namespace Position

/-- The characters of a text behind its last line feed. -/
def lastLine (text : List Char) : List Char :=
  text.rtakeWhile (· ≠ '\n')

@[simp] theorem lastLine_newline (text : List Char) : lastLine (text ++ ['\n']) = [] := by
  simp [lastLine]

theorem lastLine_concat {c : Char} (inLine : c ≠ '\n') (text : List Char) :
    lastLine (text ++ [c]) = lastLine text ++ [c] := by
  simp [lastLine, inLine]

/-- A walk from the start of a text counts line feeds and, after the last, widths. -/
theorem start_walk (width : Char → Nat) (text : List Char) : start.walk width text
    = ⟨1 + text.count '\n', 1 + ((lastLine text).map width).sum⟩ := by
  induction text using List.reverseRecOn with
  | nil => rfl
  | append_singleton text c inductionHypothesis =>
    rw [walk_append, inductionHypothesis, walk_cons, walk_nil, step]
    by_cases newline : c = '\n'
    · simp [newline, Nat.add_assoc]
    · simp [newline, lastLine_concat newline, Nat.add_assoc]

/-- The position of a byte counts what the longest beginning that ends there or before holds,
whatever the widths of characters are; a character without a width counts as one cell. -/
theorem ofOffset_counted (text : List Char) (offset : Nat) : ∃ front,
    Utf8.IsLongestWithin offset text front ∧
    (∀ width? : Char → Option Nat, ofOffsetWith (fun c => (width? c).getD 1) text offset
      = ⟨1 + front.count '\n', 1 + ((lastLine front).map fun c => (width? c).getD 1).sum⟩) ∧
    ofOffset text offset = ⟨1 + front.count '\n', 1 + ((lastLine front).map displayWidth).sum⟩ :=
  ⟨Utf8.takeWithin offset text, Utf8.takeWithin_longest offset text,
    fun _ => (ofOffsetWith_eq _ text offset).trans (start_walk _ _),
    (ofOffsetWith_eq _ text offset).trans (start_walk _ _)⟩

/-- Inside a character counts as before it. -/
example : ofOffset ['m', 'á'] 2 = ⟨1, 2⟩ := by decide +kernel

end Position

end Highlighter
