import Highlighter.Text.Utf8

/-!
# Boundaries between characters

A byte of a text is a boundary if a beginning of the text ends there.  Stepping back
from a byte, one comes to the end of the longest beginning that does not reach past
the byte; that beginning can also be taken from the front of the text.
-/

set_option autoImplicit false

namespace Highlighter.Utf8

variable {limit offset : Nat} {text front rest : List Char}

/-- An offset leads to the text behind some front of that size, and nowhere else. -/
theorem drop?_eq_some_iff :
    drop? offset text = some rest ↔ ∃ front, text = front ++ rest ∧ size front = offset := by
  constructor
  · induction text generalizing offset with
    | nil =>
      intro left
      cases offset with
      | zero => exact ⟨[], Option.some.inj left, rfl⟩
      | succ offset => cases left
    | cons c text inductionHypothesis =>
      intro left
      cases offset with
      | zero => exact ⟨[], Option.some.inj left, rfl⟩
      | succ offset =>
        rw [drop?] at left
        split at left
        · rename_i fits
          obtain ⟨front, rfl, total⟩ := inductionHypothesis left
          refine ⟨c :: front, rfl, ?_⟩
          rw [size_cons, total]
          omega
        · cases left
  · rintro ⟨front, rfl, rfl⟩
    exact drop?_size_append front rest

theorem isBoundary_iff : isBoundary text offset ↔ ∃ front, front <+: text ∧ size front = offset := by
  rw [isBoundary, Option.isSome_iff_exists]
  simp only [drop?_eq_some_iff]
  constructor
  · rintro ⟨rest, front, rfl, total⟩
    exact ⟨front, List.prefix_append front rest, total⟩
  · rintro ⟨front, ⟨rest, rfl⟩, total⟩
    exact ⟨rest, front, rfl, total⟩

/-- Nothing is stepped over but bytes within characters. -/
theorem stepBack_eq (begins : front <+: text) (order : size front ≤ offset)
    (last : ∀ other, other <+: text → size other ≤ offset → size other ≤ size front) :
    stepBack text offset = size front := by
  induction offset with
  | zero => exact (Nat.le_zero.mp order).symm
  | succ offset inductionHypothesis =>
    unfold stepBack
    by_cases boundary : isBoundary text (offset + 1)
    · obtain ⟨other, before, total⟩ := isBoundary_iff.mp boundary
      have bounded := last other before (Nat.le_of_eq total)
      rw [if_pos boundary]
      omega
    · have inside : size front ≠ offset + 1 := fun total =>
        boundary (isBoundary_iff.mpr ⟨front, begins, total⟩)
      rw [if_neg boundary]
      exact inductionHypothesis (by omega) fun other before fits =>
        last other before (Nat.le_succ_of_le fits)

/-! ## The front of a text -/

/-- The longest run of whole characters at the front of a text that fits into `limit` bytes. -/
def takeWithin : Nat → List Char → List Char
  | _, [] => []
  | limit, c :: rest =>
    if c.utf8Size ≤ limit then c :: takeWithin (limit - c.utf8Size) rest else []

theorem takeWithin_fits (limit : Nat) (text : List Char) :
    takeWithin limit text <+: text ∧ size (takeWithin limit text) ≤ limit := by
  induction text generalizing limit with
  | nil => exact ⟨List.nil_prefix, Nat.zero_le _⟩
  | cons c rest inductionHypothesis =>
    by_cases fits : c.utf8Size ≤ limit
    · obtain ⟨begins, bounded⟩ := inductionHypothesis (limit - c.utf8Size)
      rw [takeWithin, if_pos fits, size_cons]
      exact ⟨List.cons_prefix_cons.mpr ⟨rfl, begins⟩, by omega⟩
    · rw [takeWithin, if_neg fits]
      exact ⟨List.nil_prefix, Nat.zero_le _⟩

/-- Every beginning of the text that fits is taken. -/
theorem prefix_takeWithin {other : List Char} (begins : other <+: text)
    (fits : size other ≤ limit) : other <+: takeWithin limit text := by
  induction other generalizing text limit with
  | nil => exact List.nil_prefix
  | cons c rest inductionHypothesis =>
    obtain ⟨tail, rfl⟩ := begins
    rw [size_cons] at fits
    have own : c.utf8Size ≤ limit := by omega
    have left : size rest ≤ limit - c.utf8Size := by omega
    rw [List.cons_append, takeWithin, if_pos own]
    exact List.cons_prefix_cons.mpr
      ⟨rfl, inductionHypothesis (List.prefix_append rest tail) left⟩

theorem size_le_of_prefix (begins : front <+: text) : size front ≤ size text := by
  obtain ⟨rest, rfl⟩ := begins
  rw [size_append]
  exact Nat.le_add_right _ _

/-- No more of a text fits than the piece of which the bytes are counted. -/
theorem takeWithin_size_append (first second : List Char) :
    takeWithin (size first) (first ++ second) = first := by
  induction first with
  | nil =>
    cases second with
    | nil => rfl
    | cons c rest =>
      have positive : 0 < c.utf8Size := c.utf8Size_pos
      simp [takeWithin]
      omega
  | cons c rest inductionHypothesis => simp [takeWithin, inductionHypothesis]

/-- From a byte of a text, or from its end if the byte lies past it, one steps back to the end of
what fits. -/
theorem stepBack_min (limit : Nat) (text : List Char) :
    stepBack text (min limit (size text)) = size (takeWithin limit text) := by
  obtain ⟨begins, fits⟩ := takeWithin_fits limit text
  refine stepBack_eq begins (Nat.le_min.mpr ⟨fits, size_le_of_prefix begins⟩) fun other before => ?_
  intro bounded
  exact size_le_of_prefix (prefix_takeWithin before (Nat.le_min.mp bounded).1)

/-- What is cut off there is never in the midst of a character. -/
theorem take?_stepBack (limit : Nat) (text : List Char) :
    take? (stepBack text (min limit (size text))) text = some (takeWithin limit text) := by
  obtain ⟨rest, whole⟩ := (takeWithin_fits limit text).1
  have front := take?_size_append (takeWithin limit text) rest
  rwa [whole, ← stepBack_min] at front

end Highlighter.Utf8
