import Highlighter.Scan.Lines
import Highlighter.Proofs.Scan.Stream

/-!
# Every text is divided completely

Asking a stream for one token after another comes to an end with any table of
rules, and the tokens handed out are those of the steps.  They cover the text:
every byte of it is in exactly one of them.
-/

set_option autoImplicit false

namespace Highlighter

/-- Asked again and again, a source hands out the given items and then nothing any more. -/
inductive HandsOut {Source Item : Type} (next : Source → Option Item × Source) :
    Source → List Item → Prop where
  | done {source : Source} (ended : next source = (none, source)) : HandsOut next source []
  | more {source following : Source} {item : Item} {items : List Item}
      (handed : next source = (some item, following)) (later : HandsOut next following items) :
      HandsOut next source (item :: items)

namespace Stream

/-- A stream at any point hands out the tokens that are left of its text. -/
theorem handsOut_tokensLeft (stream : Stream) : HandsOut next stream stream.tokensLeft := by
  rw [← stream.marked_tokensLeft]
  induction left : stream.marked generalizing stream with
  | nil =>
    rcases stream.next_eq with ⟨-, ended⟩ | ⟨token, stop, following, more, -, -⟩
    · exact .done ended
    · rw [left] at more
      cases more
  | cons mark later inductionHypothesis =>
    rcases stream.next_eq with ⟨none, -⟩ | ⟨token, stop, following, more, handed, -⟩
    · rw [left] at none
      cases none
    · rw [left] at more
      cases more
      exact .more handed (inductionHypothesis following rfl)

end Stream

namespace LineStream

theorem handsOut_linesFrom (table : RuleTable) (index offset : Nat) (rest : List (List Char)) :
    HandsOut next ⟨table, index, offset, rest⟩ (table.linesFrom index offset rest) := by
  induction rest generalizing index offset with
  | nil => exact .done rfl
  | cons text rest inductionHypothesis =>
    rw [RuleTable.linesFrom]
    exact .more rfl (inductionHypothesis _ _)

/-- All lines that are left are handed out one after another. -/
theorem drain_fst (table : RuleTable) (index offset : Nat) (rest : List (List Char)) :
    (drain ⟨table, index, offset, rest⟩).1 = table.linesFrom index offset rest := by
  induction rest generalizing index offset with
  | nil =>
    rw [drain]
    rfl
  | cons text rest inductionHypothesis =>
    rw [drain, RuleTable.linesFrom]
    exact congrArg (table.line index offset text :: ·) (inductionHypothesis _ _)

end LineStream

/-- With any rules, the stream of a text comes to an end, what it hands out covers the text, and
no rule looks at a part of the text that is not there: each match lies in the text that is left,
and each group inside the match. -/
theorem stream_covers (table : RuleTable) (text : List Char) :
    HandsOut Stream.next (Stream.start table text) (table.tokens text) ∧
      Covers text (table.tokens text) ∧
      ∀ rule ∈ table.rules, ∀ rest found,
        rule.pattern.find? rest = some found → found.Within rest.length := by
  refine ⟨(Stream.start table text).handsOut_tokensLeft, ?_, ?_⟩
  · exact (table.stepsFrom_tiles 0 text).covers
  · intro rule _ rest found search
    exact rule.pattern.find?_within search

end Highlighter
