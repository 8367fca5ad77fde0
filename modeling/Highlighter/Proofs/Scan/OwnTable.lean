import Highlighter.Proofs.Pattern.FirstReading
import Highlighter.Proofs.Pattern.Phrases
import Highlighter.Proofs.Scan.Coverage
import Highlighter.Proofs.Scan.LineByLine

/-!
# Tables of one's own

Any table whose patterns stay within a line divides single lines and whole
texts alike, whatever its rules make of their matches and whatever they bar
behind them.  A pattern stays within a line if none of its places takes a line
feed.  It may also have ways over a line feed, as long as another way is
preferred to each of them.
-/

set_option autoImplicit false

namespace Highlighter

/-- An anchored pattern stays within a line if its preferred phrases do. -/
theorem Pattern.staysInLine_of_reads {body : Tree} {phrases : Phrases} (simple : body.Simple)
    (reads : body.Reads phrases) (count : Nat)
    (inLine : ∀ text, ∀ phrase ∈ (phrases text).head?, '\n' ∉ phrase) :
    (Pattern.atStart body count).StaysInLine := by
  intro text found finds
  rw [Pattern.find?_atStart simple, reads.readings, List.head?_map, Option.map_map] at finds
  obtain ⟨phrase, first, rfl⟩ := Option.map_eq_some_iff.mp finds
  have front : phrase <+: text := reads.prefixed text phrase (List.mem_of_mem_head? first)
  have stop : ((Reading.start text).past phrase).toMatch.span.stop = phrase.length :=
    Nat.zero_add phrase.length
  rw [Function.comp_apply, stop, ← List.prefix_iff_eq_take.mp front]
  exact inLine text phrase first

/-- Where every pattern stays within a line, the lines of a text hand out the tokens that the whole
text does. -/
theorem RuleTable.lineStream_agrees (table : RuleTable)
    (stays : ∀ rule ∈ table.rules, rule.pattern.StaysInLine) (text : List Char) :
    HandsOut LineStream.next (LineStream.start table text) (table.lines text) ∧
      HandsOut Stream.next (Stream.start table text) (table.tokens text) ∧
      (table.lines text).flatMap (·.tokens) = table.tokens text := by
  refine ⟨?_, ?_, ?_⟩
  · exact LineStream.handsOut_linesFrom table 0 0 (Line.split text)
  · exact (Stream.start table text).handsOut_tokensLeft
  · exact table.lines_tokens stays text

/-- A match over a line feed is lost where the lines are divided one by one. -/
example :
    let table : RuleTable := ⟨[⟨"pair", .atStart (.literal ['a', '\n', 'b']) 0, .whole .atom, none⟩]⟩
    (table.lines "a\nb".toList).flatMap (·.tokens) ≠ table.tokens "a\nb".toList := by
  decide +kernel

/-! ## A pattern with a way over a line feed -/

/-- The last word of a line; where the next line begins with `b`, there is a way to that too. -/
def lastWordTree : Tree :=
  .andThen (.run (.range 'a' 'z')) (.orElse (.check .lineEnd) (.literal ['\n', 'b']))

def lastWordPhrases : Phrases :=
  (Phrases.someRun (CharSet.range 'a' 'z').contains).andThen
    (Phrases.lineEnd.orElse (.words [['\n', 'b']]))

theorem lastWordTree_reads : lastWordTree.Reads lastWordPhrases :=
  (Tree.Reads.someRun _).andThen (Tree.Reads.lineEnd.orElse (.literal _))

/-- The end of the line is preferred wherever the line feed could be taken. -/
theorem lastWordPhrases_inLine (text : List Char) :
    ∀ phrase ∈ (lastWordPhrases text).head?, '\n' ∉ phrase := by
  intro phrase first
  unfold lastWordPhrases Phrases.andThen at first
  rw [List.head?_flatMap] at first
  obtain ⟨word, among, chosen⟩ := List.exists_of_findSome?_eq_some first
  obtain ⟨-, -, letters⟩ := Phrases.mem_someRun.mp among
  have noBreak : '\n' ∉ word := fun member => by
    have letter := letters '\n' member
    revert letter
    decide
  generalize text.drop word.length = rest at chosen
  have ends : phrase = word := by
    by_cases lineEnd : rest.head?.all (· == '\n')
    · simpa [Phrases.orElse, Phrases.lineEnd, lineEnd] using chosen.symm
    · cases rest with
      | nil => simp at lineEnd
      | cons c rest =>
        have other : c ≠ '\n' := by simpa using lineEnd
        simp [Phrases.orElse, Phrases.lineEnd, Phrases.words, List.isPrefixOf, other,
          Ne.symm other] at chosen
  rw [ends]
  exact noBreak

def lastWordTable : RuleTable :=
  ⟨[⟨"last word", .atStart lastWordTree 0, .whole .keyword, none⟩]⟩

theorem lineStream_agrees_lastWord :
    (Pattern.ofText "[a-z]+(?:$|\nb)").toOption = some (.atStart lastWordTree 0) ∧
      (∀ rule ∈ lastWordTable.rules, rule.pattern.StaysInLine) ∧
      HandsOut LineStream.next (LineStream.start lastWordTable "a b\nb".toList)
        (lastWordTable.lines "a b\nb".toList) ∧
      HandsOut Stream.next (Stream.start lastWordTable "a b\nb".toList)
        (lastWordTable.tokens "a b\nb".toList) ∧
      (lastWordTable.lines "a b\nb".toList).flatMap (·.tokens)
        = lastWordTable.tokens "a b\nb".toList := by
  have stays : ∀ rule ∈ lastWordTable.rules, rule.pattern.StaysInLine := by
    intro rule member
    rw [List.mem_singleton.mp member]
    exact Pattern.staysInLine_of_reads (.of_isSimple (by decide)) lastWordTree_reads 0
      lastWordPhrases_inLine
  exact ⟨by decide +kernel, stays, lastWordTable.lineStream_agrees stays _⟩

end Highlighter
