import Highlighter.Proofs.Text.Counting
import Mathlib.Order.Monotone.Defs

/-!
# Positions in order

Positions are in order by line first and by column second.  A line feed takes the
column back to the first and the position forward all the same, so a walk never
goes back.  The beginnings of a text that are cut off at growing offsets lie one
within the other, wherever the cuts fall, so positions grow with the offset.
-/

set_option autoImplicit false

namespace Highlighter

/-- What fits into so many bytes of a text is the beginning of what fits into more. -/
theorem Utf8.takeWithin_mono {limit more : Nat} (order : limit ≤ more) (text : List Char) :
    takeWithin limit text <+: takeWithin more text := by
  obtain ⟨begins, fits⟩ := takeWithin_fits limit text
  exact prefix_takeWithin begins (fits.trans order)

namespace Position

/-! ## The order -/

instance : LE Position := ⟨fun left right => (compare left right).isLE⟩

theorem le_iff {left right : Position} : left ≤ right ↔
    left.line < right.line ∨ left.line = right.line ∧ left.column ≤ right.column := by
  change ((Ord.compare left.line right.line).then
    (Ord.compare left.column right.column)).isLE ↔ _
  rw [Ordering.isLE_then_iff_and]
  simp only [Nat.isLE_compare, Nat.compare_eq_lt]
  omega

instance : PartialOrder Position where
  le_refl position := le_iff.mpr (.inr ⟨rfl, Nat.le_refl _⟩)
  le_trans first second third before after := by
    rw [le_iff] at before after ⊢
    omega
  le_antisymm left right before after := by
    rw [le_iff] at before after
    have line : left.line = right.line := by omega
    have column : left.column = right.column := by omega
    exact congrArg₂ Position.mk line column

/-! ## Walks -/

/-- A line feed leads to a later line, and any other character to the same column or a later one
in its line. -/
theorem le_step (width : Char → Nat) (position : Position) (c : Char) :
    position ≤ step width position c := by
  rw [le_iff, step]
  by_cases newline : c = '\n'
  · rw [if_pos newline]
    exact .inl (Nat.lt_succ_self _)
  · rw [if_neg newline]
    exact .inr ⟨rfl, Nat.le_add_right _ _⟩

theorem le_walk (width : Char → Nat) (position : Position) (segment : List Char) :
    position ≤ position.walk width segment := by
  induction segment generalizing position with
  | nil => exact le_refl position
  | cons c rest inductionHypothesis =>
    rw [walk_cons]
    exact (le_step width position c).trans (inductionHypothesis _)

theorem walk_le_walk_of_prefix (width : Char → Nat) (position : Position)
    {first second : List Char} (begins : first <+: second) :
    position.walk width first ≤ position.walk width second := by
  obtain ⟨tail, rfl⟩ := begins
  rw [walk_append]
  exact le_walk width _ tail

/-! ## Offsets -/

/-- Positions grow with the offset, and walks with the text walked over, whatever the widths of
characters are. -/
theorem ofOffset_monotone (width : Char → Nat) :
    (∀ text, Monotone (ofOffsetWith width text)) ∧ (∀ text, Monotone (ofOffset text)) ∧
    ∀ (position : Position) (first second : List Char),
      position ≤ position.walk width first ∧
      position.walk width first ≤ position.walk width (first ++ second) ∧
      position.walk width (first ++ second)
        = (position.walk width first).walk width second := by
  have grows (width : Char → Nat) (text : List Char) : Monotone (ofOffsetWith width text) := by
    intro offset later order
    rw [ofOffsetWith_eq, ofOffsetWith_eq]
    exact walk_le_walk_of_prefix width start (Utf8.takeWithin_mono order text)
  refine ⟨grows width, grows displayWidth, fun position first second => ⟨?_, ?_, ?_⟩⟩
  · exact le_walk width position first
  · exact walk_le_walk_of_prefix width position (List.prefix_append first second)
  · exact walk_append width position first second

end Position

end Highlighter
