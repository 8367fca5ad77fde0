import Highlighter.Proofs.Pattern.Shortened
import Highlighter.Proofs.Scan.LinePlaces
import Highlighter.Proofs.Text.Boundaries

/-!
# Rules tried at any offset

A rule may be tried anywhere, also where no step begins: inside a character, at the
end of a text or past it.  It makes tokens only at a boundary between characters with
text after it, and then they cover the match completely.
-/

set_option autoImplicit false

namespace Highlighter

namespace Rule

/-- A character that may not follow a match of the rule. -/
def Bars (rule : Rule) (c : Char) : Prop :=
  ∃ barred, rule.barred? = some barred ∧ barred c = true

theorem mayEndBefore_eq_true_iff (rule : Rule) (rest : List Char) :
    rule.mayEndBefore rest = true ↔ ∀ c ∈ rest.head?, ¬rule.Bars c := by
  unfold mayEndBefore Bars
  cases rest with
  | nil => cases rule.barred? <;> simp
  | cons c rest => cases rule.barred? <;> simp

variable {rule : Rule} {text : List Char} {offset : Nat}

theorem tokensAt?_size_append (front rest : List Char) :
    rule.tokensAt? (front ++ rest) (Utf8.size front)
      = (rule.match? (Utf8.size front) rest).map (·.tokens) := by
  unfold tokensAt?
  rw [Utf8.drop?_size_append]
  cases rest with
  | cons c rest => rfl
  | nil =>
    -- A match in the empty text would take a character at least.
    have none : rule.match? (Utf8.size front) [] = .none := by
      refine Option.eq_none_iff_forall_not_mem.mpr fun found finds => ?_
      obtain ⟨positive, bounded⟩ := match?_length finds
      exact Nat.not_lt_zero _ (Nat.lt_of_lt_of_le positive bounded)
    rw [none]
    rfl

theorem tokensAt?_eq_none_of_drop? (nowhere : Utf8.drop? offset text = none) :
    rule.tokensAt? text offset = none := by
  unfold tokensAt?
  rw [nowhere]

theorem tokensAt?_eq_none_of_size_le (beyond : Utf8.size text ≤ offset) :
    rule.tokensAt? text offset = none := by
  cases left : Utf8.drop? offset text with
  | none => exact tokensAt?_eq_none_of_drop? left
  | some rest =>
    obtain ⟨front, rfl, rfl⟩ := Utf8.drop?_eq_some_iff.mp left
    have empty : rest = [] := by
      by_contra nonempty
      have positive := Utf8.size_pos nonempty
      rw [Utf8.size_append] at beyond
      omega
    subst empty
    unfold tokensAt?
    rw [left]

theorem match?_eq_none_iff {rest : List Char} : rule.match? offset rest = none ↔
    ∀ found, rule.pattern.find? rest = some found →
      found.span.stop = 0 ∨ ∃ c ∈ (rest.drop found.span.stop).head?, rule.Bars c := by
  unfold match?
  cases search : rule.pattern.find? rest with
  | none => simp
  | some found =>
    have ends := rule.mayEndBefore_eq_true_iff (rest.drop found.span.stop)
    by_cases empty : found.span.stop = 0
    · simp [empty]
    · simp [empty, ends]

/-- What a rule makes at an offset comes from a match in the text behind it. -/
theorem tokensAt?_eq_some {tokens : List Token} (made : rule.tokensAt? text offset = some tokens) :
    ∃ front rest found, text = front ++ rest ∧ Utf8.size front = offset ∧
      rule.pattern.find? rest = some found ∧ found.span.stop ≠ 0 ∧
      tokens = rule.labelling.tokens offset rest found := by
  cases left : Utf8.drop? offset text with
  | none =>
    rw [tokensAt?_eq_none_of_drop? left] at made
    cases made
  | some rest =>
    obtain ⟨front, rfl, rfl⟩ := Utf8.drop?_eq_some_iff.mp left
    rw [tokensAt?_size_append] at made
    obtain ⟨matched, finds, rfl⟩ := Option.map_eq_some_iff.mp made
    obtain ⟨found, search, nonempty, -, rfl⟩ := match?_eq_some finds
    exact ⟨front, rest, found, rfl, rfl, search, nonempty, rfl⟩

theorem tokensAt?_covers {tokens : List Token} (made : rule.tokensAt? text offset = some tokens) :
    ∃ front rest found, text = front ++ rest ∧ Utf8.size front = offset ∧
      rule.pattern.find? rest = some found ∧ tokens ≠ [] ∧
      CoversPart text offset (offset + Utf8.size (rest.take found.span.stop)) tokens := by
  obtain ⟨front, rest, found, rfl, rfl, search, nonempty, rfl⟩ := tokensAt?_eq_some made
  have within := rule.pattern.find?_within search
  have tiles := rule.labelling.tokens_tiles (Utf8.size front) within nonempty
  have covers := tiles.coversPart (rest.drop found.span.stop)
  rw [List.take_append_drop] at covers
  refine ⟨front, rest, found, rfl, rfl, search, ?_, covers⟩
  intro none
  have joined := tiles.joined
  rw [none, List.flatMap_nil] at joined
  rcases List.take_eq_nil_iff.mp joined.symm with zero | empty
  · exact nonempty zero
  · have bounded := within.bounded
    rw [empty, List.length_nil] at bounded
    exact nonempty (Nat.le_zero.mp bounded)

/-- At any offset a rule makes tokens that cover its match there, or none: where the offset is no
boundary with text behind it, where the match is empty or missing, and where a character follows
that bars it. -/
theorem tokensAt?_anywhere (rule : Rule) (text : List Char) (offset : Nat) :
    (∀ tokens, rule.tokensAt? text offset = some tokens → ∃ front rest found,
      text = front ++ rest ∧ Utf8.size front = offset ∧ rule.pattern.find? rest = some found ∧
      tokens ≠ [] ∧
      CoversPart text offset (offset + Utf8.size (rest.take found.span.stop)) tokens) ∧
    (Utf8.size text ≤ offset → rule.tokensAt? text offset = none) ∧
    ((∀ front rest, text = front ++ rest → Utf8.size front ≠ offset) →
      rule.tokensAt? text offset = none) ∧
    ∀ front rest, text = front ++ rest → Utf8.size front = offset →
      (rule.tokensAt? text offset = none ↔ ∀ found, rule.pattern.find? rest = some found →
        found.span.stop = 0 ∨ ∃ c ∈ (rest.drop found.span.stop).head?, rule.Bars c) := by
  refine ⟨fun tokens => tokensAt?_covers, tokensAt?_eq_none_of_size_le, ?_, ?_⟩
  · intro inside
    refine tokensAt?_eq_none_of_drop? (Option.eq_none_iff_forall_not_mem.mpr fun rest left => ?_)
    obtain ⟨front, split, total⟩ := Utf8.drop?_eq_some_iff.mp left
    exact inside front rest split total
  · rintro front rest rfl rfl
    rw [tokensAt?_size_append, Option.map_eq_none_iff, match?_eq_none_iff]

end Rule

end Highlighter
