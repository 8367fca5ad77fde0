import Highlighter.Rule.Basic
import Highlighter.Proofs.Pattern.Spans
import Highlighter.Proofs.Token.Tiling

/-!
# The tokens of a match

However the groups of a match lie to each other, its tokens tile the text from
where the search began up to the end of the match.  They are made of that text
alone, and moving it moves them.
-/

set_option autoImplicit false

namespace Highlighter

def between (text : List Char) (start stop : Nat) : List Char :=
  (text.take stop).drop start

section Between
variable {text : List Char} {start middle stop : Nat}

theorem take_append_between (text : List Char) (order : start ≤ stop) :
    text.take start ++ between text start stop = text.take stop := by
  have shorter : text.take start = (text.take stop).take start := by
    rw [List.take_take, Nat.min_eq_left order]
  rw [shorter]
  exact List.take_append_drop start (text.take stop)

theorem between_append (text : List Char) (first : start ≤ middle) (second : middle ≤ stop) :
    between text start middle ++ between text middle stop = between text start stop := by
  have whole := take_append_between text (Nat.le_trans first second)
  rw [← take_append_between text second, ← take_append_between text first,
    List.append_assoc] at whole
  exact (List.append_cancel_left whole).symm

theorem between_self (text : List Char) (start : Nat) : between text start start = [] := by
  unfold between
  exact List.drop_eq_nil_of_le (List.length_take_le start text)

theorem between_ne_nil (order : start < stop) (bounded : stop ≤ text.length) :
    between text start stop ≠ [] := by
  intro empty
  have count := congrArg List.length empty
  unfold between at count
  rw [List.length_drop, List.length_take, List.length_nil] at count
  omega

end Between

namespace Labelling

/-! ## Covering the match -/

section Covering
variable {text : List Char}

/-- The byte at which character `index` begins, in a text that begins at byte `offset`. -/
def byteAt (text : List Char) (offset index : Nat) : Nat :=
  offset + Utf8.size (text.take index)

theorem byteAt_between (text : List Char) (offset : Nat) {start stop : Nat}
    (order : start ≤ stop) :
    byteAt text offset start + Utf8.size (between text start stop) = byteAt text offset stop := by
  unfold byteAt
  rw [Nat.add_assoc, ← Utf8.size_append, take_append_between text order]

theorem stretch_tiles (cls : TokenClass) (offset : Nat) {start stop : Nat} (order : start < stop)
    (bounded : stop ≤ text.length) :
    Tiles (byteAt text offset start) (between text start stop)
      [stretch cls text offset start stop] :=
  .single cls _ (between_ne_nil order bounded)

theorem gap_tiles (offset : Nat) {start stop : Nat} (order : start ≤ stop)
    (bounded : stop ≤ text.length) :
    Tiles (byteAt text offset start) (between text start stop) (gap text offset start stop) := by
  unfold gap
  by_cases room : start < stop
  · rw [if_pos room]
    exact stretch_tiles .plain offset room bounded
  · have same : start = stop := Nat.le_antisymm order (Nat.le_of_not_lt room)
    subst same
    rw [if_neg room, between_self]
    exact .done _

/-- Tilings up to a character and from it on. -/
theorem tiles_trans {offset start middle stop : Nat} {tokens others : List Token}
    (first : Tiles (byteAt text offset start) (between text start middle) tokens)
    (second : Tiles (byteAt text offset middle) (between text middle stop) others)
    (firstOrder : start ≤ middle) (secondOrder : middle ≤ stop) :
    Tiles (byteAt text offset start) (between text start stop) (tokens ++ others) := by
  rw [← between_append text firstOrder secondOrder]
  refine first.append ?_
  rwa [byteAt_between text offset firstOrder]

/-- Whatever the groups, their tokens tile the text from the cursor to the end of the match. -/
theorem groupTokens_tiles (offset : Nat) {found : Match} (within : found.Within text.length)
    (classes : List (Option TokenClass)) : ∀ number cursor, cursor ≤ found.span.stop →
      Tiles (byteAt text offset cursor) (between text cursor found.span.stop)
        (groupTokens text offset found number cursor classes) := by
  induction classes with
  | nil =>
    intro number cursor order
    exact gap_tiles offset order within.bounded
  | cons cls classes inductionHypothesis =>
    intro number cursor order
    unfold groupTokens
    -- A group that took no part, is empty or lies before the cursor leaves the cursor in place.
    split
    · exact inductionHypothesis (number + 1) cursor order
    · rename_i span present
      obtain ⟨-, -, groupStop⟩ := within.group? present
      split
      · rename_i fits
        have bounded : span.stop ≤ text.length := Nat.le_trans groupStop within.bounded
        have startBounded : span.start ≤ text.length := Nat.le_trans (Nat.le_of_lt fits.1) bounded
        have before := gap_tiles offset fits.2 startBounded
        have own := stretch_tiles (cls.getD .plain) offset fits.1 bounded
        have after := inductionHypothesis (number + 1) span.stop groupStop
        have ownAndAfter := tiles_trans own after (Nat.le_of_lt fits.1) groupStop
        rw [List.append_assoc]
        exact tiles_trans before ownAndAfter fits.2
          (Nat.le_trans (Nat.le_of_lt fits.1) groupStop)
      · exact inductionHypothesis (number + 1) cursor order

/-- The tokens of a match that is not empty tile the text up to its end. -/
theorem tokens_tiles (labelling : Labelling) (offset : Nat) {found : Match}
    (within : found.Within text.length) (nonempty : found.span.stop ≠ 0) :
    Tiles offset (text.take found.span.stop) (labelling.tokens offset text found) := by
  cases labelling with
  | whole cls =>
    exact stretch_tiles cls offset (Nat.pos_of_ne_zero nonempty) within.bounded
  | groups classes => exact groupTokens_tiles offset within classes 1 0 (Nat.zero_le _)

end Covering

/-! ## Moving the text, and going on after it -/

theorem stretch_shift (cls : TokenClass) (text : List Char) (offset distance start stop : Nat) :
    stretch cls text (offset + distance) start stop
      = (stretch cls text offset start stop).shift distance := by
  simp only [stretch, Token.ofText, Token.shift, Token.mk.injEq, true_and]
  omega

theorem gap_shift (text : List Char) (offset distance start stop : Nat) :
    gap text (offset + distance) start stop
      = (gap text offset start stop).map (·.shift distance) := by
  unfold gap
  split
  · rw [stretch_shift, List.map_singleton]
  · rfl

theorem groupTokens_shift (text : List Char) (offset distance : Nat) (found : Match)
    (classes : List (Option TokenClass)) : ∀ number cursor,
      groupTokens text (offset + distance) found number cursor classes
        = (groupTokens text offset found number cursor classes).map (·.shift distance) := by
  induction classes with
  | nil => exact fun _ cursor => gap_shift text offset distance cursor found.span.stop
  | cons cls classes inductionHypothesis =>
    intro number cursor
    unfold groupTokens
    split
    · exact inductionHypothesis (number + 1) cursor
    · split
      · simp only [List.map_append, List.map_singleton, gap_shift, stretch_shift,
          inductionHypothesis]
      · exact inductionHypothesis (number + 1) cursor

theorem tokens_shift (labelling : Labelling) (offset distance : Nat) (text : List Char)
    (found : Match) :
    labelling.tokens (offset + distance) text found
      = (labelling.tokens offset text found).map (·.shift distance) := by
  cases labelling with
  | whole cls => exact congrArg (fun token => [token]) (stretch_shift cls text offset distance _ _)
  | groups classes => exact groupTokens_shift text offset distance found classes 1 0

section Agreeing
variable {text other : List Char} {limit : Nat}

theorem take_agree (agree : text.take limit = other.take limit) {stop : Nat}
    (bounded : stop ≤ limit) : text.take stop = other.take stop := by
  have shorter := congrArg (List.take stop) agree
  rwa [List.take_take, List.take_take, Nat.min_eq_left bounded] at shorter

theorem stretch_agree (agree : text.take limit = other.take limit) (cls : TokenClass)
    (offset : Nat) {start stop : Nat} (order : start ≤ stop) (bounded : stop ≤ limit) :
    stretch cls text offset start stop = stretch cls other offset start stop := by
  unfold stretch
  rw [take_agree agree bounded, take_agree agree (Nat.le_trans order bounded)]

theorem gap_agree (agree : text.take limit = other.take limit) (offset : Nat) {start stop : Nat}
    (bounded : stop ≤ limit) : gap text offset start stop = gap other offset start stop := by
  unfold gap
  split
  · rename_i room
    rw [stretch_agree agree .plain offset (Nat.le_of_lt room) bounded]
  · rfl

theorem groupTokens_agree (offset : Nat) {found : Match} {length : Nat}
    (within : found.Within length) (agree : text.take found.span.stop = other.take found.span.stop)
    (classes : List (Option TokenClass)) : ∀ number cursor,
      groupTokens text offset found number cursor classes
        = groupTokens other offset found number cursor classes := by
  induction classes with
  | nil => exact fun _ cursor => gap_agree agree offset (Nat.le_refl _)
  | cons cls classes inductionHypothesis =>
    intro number cursor
    unfold groupTokens
    split
    · exact inductionHypothesis (number + 1) cursor
    · rename_i span present
      obtain ⟨-, order, stop⟩ := within.group? present
      split
      · rw [gap_agree agree offset (Nat.le_trans order stop),
          stretch_agree agree _ offset order stop, inductionHypothesis]
      · exact inductionHypothesis (number + 1) cursor

/-- The tokens of a match depend on the text up to its end only. -/
theorem tokens_agree (labelling : Labelling) (offset : Nat) {found : Match} {length : Nat}
    (within : found.Within length)
    (agree : text.take found.span.stop = other.take found.span.stop) :
    labelling.tokens offset text found = labelling.tokens offset other found := by
  cases labelling with
  | whole cls =>
    exact congrArg (fun token => [token])
      (stretch_agree agree cls offset (Nat.zero_le _) (Nat.le_refl _))
  | groups classes => exact groupTokens_agree offset within agree classes 1 0

end Agreeing

end Labelling

namespace Rule

variable {rule : Rule} {offset : Nat} {text : List Char} {found : Found}

/-- What a rule finds comes from a match of its pattern. -/
theorem match?_eq_some (finds : rule.match? offset text = some found) :
    ∃ matched, rule.pattern.find? text = some matched ∧ matched.span.stop ≠ 0 ∧
      rule.mayEndBefore (text.drop matched.span.stop) = true ∧
      found = ⟨matched.span.stop, rule.labelling.tokens offset text matched⟩ := by
  unfold match? at finds
  cases matches_ : rule.pattern.find? text with
  | none => simp [matches_] at finds
  | some matched =>
    simp only [matches_] at finds
    split at finds
    · rename_i accepted
      exact ⟨matched, rfl, accepted.1, accepted.2, (Option.some.inj finds).symm⟩
    · cases finds

/-- What a rule finds takes a character at least and ends within the text. -/
theorem match?_length (finds : rule.match? offset text = some found) :
    0 < found.length ∧ found.length ≤ text.length := by
  obtain ⟨matched, search, nonempty, -, rfl⟩ := match?_eq_some finds
  exact ⟨Nat.pos_of_ne_zero nonempty, (rule.pattern.find?_within search).bounded⟩

/-- The tokens that a rule makes tile the text that it covers. -/
theorem match?_tiles (finds : rule.match? offset text = some found) :
    Tiles offset (text.take found.length) found.tokens := by
  obtain ⟨matched, search, nonempty, -, rfl⟩ := match?_eq_some finds
  exact rule.labelling.tokens_tiles offset (rule.pattern.find?_within search) nonempty

/-- What a rule finds does not depend on where the text begins, but for the place of its tokens. -/
theorem match?_shift (rule : Rule) (offset distance : Nat) (text : List Char) :
    rule.match? (offset + distance) text
      = (rule.match? offset text).map fun found =>
          ⟨found.length, found.tokens.map (·.shift distance)⟩ := by
  unfold match?
  split
  · rfl
  · split
    · rw [Labelling.tokens_shift]
      rfl
    · rfl

end Rule

end Highlighter
