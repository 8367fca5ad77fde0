import Highlighter.Proofs.Scan.Coverage
import Highlighter.Proofs.Scan.LineByLine
import Highlighter.Proofs.Text.Position

/-!
# Where lines and their tokens stand

A text is divided at its line feeds, and the sizes of the lines before a line tell
where it starts.  There a walk through the text has come to the first column, as many
line feeds on as there are lines before, and in the line it meets no other.
-/

set_option autoImplicit false

namespace Highlighter

/-- The tokens cover a text from byte `start` up to byte `stop`. -/
structure CoversPart (text : List Char) (start stop : Nat) (tokens : List Token) : Prop where
  nonempty : ∀ token ∈ tokens, token.start < token.stop
  first : ∀ token ∈ tokens.head?, token.start = start
  contiguous : tokens.IsChain fun token following => following.start = token.stop
  last : ∀ token ∈ tokens.getLast?, token.stop = stop
  slice : ∀ token ∈ tokens, Utf8.slice? text token.start token.stop = some token.text
  joined : Utf8.slice? text start stop = some (tokens.flatMap Token.text)

theorem Tiles.coversPart {before segment : List Char} {tokens : List Token}
    (tiles : Tiles (Utf8.size before) segment tokens) (after : List Char) :
    CoversPart (before ++ (segment ++ after)) (Utf8.size before)
      (Utf8.size before + Utf8.size segment) tokens where
  nonempty := tiles.nonempty
  first := tiles.first
  contiguous := tiles.contiguous
  last := tiles.last
  slice := tiles.slice before after rfl
  joined := by rw [Utf8.slice?_size_append, tiles.joined]

/-- Tokens of one line start in the line that the walk has reached before them. -/
theorem Tiles.position_line {before segment : List Char} {tokens : List Token}
    (tiles : Tiles (Utf8.size before) segment tokens) (inLine : '\n' ∉ segment.dropLast)
    (width : Char → Nat) (after : List Char) : ∀ token ∈ tokens,
      (Position.ofOffsetWith width (before ++ (segment ++ after)) token.start).line
        = (Position.start.walk width before).line := by
  intro token member
  obtain ⟨front, back, split, filled, placed⟩ := tiles.exists_split token member
  -- A line feed at the end is not before the token, for the token is not empty.
  have onLine : '\n' ∉ front := by
    intro among
    rw [split, List.dropLast_append_of_ne_nil (by simp [filled])] at inLine
    exact inLine (List.mem_append_left _ among)
  have place := Position.ofOffsetWith_size_append width (before ++ front)
    (token.text ++ back ++ after)
  have whole : before ++ (segment ++ after)
      = before ++ front ++ (token.text ++ back ++ after) := by
    rw [split]
    simp
  rw [← whole, Utf8.size_append, Position.walk_append] at place
  rw [placed, Token.ofText, place, Position.walk_line onLine]

namespace Line

def text (line : Line) : List Char :=
  line.tokens.flatMap Token.text

/-- Where the line with the given index stops: where the next line starts, or with the text. -/
def stopIn (text : List Char) (lines : List Line) (index : Nat) : Nat :=
  (lines[index + 1]?.map Line.start).getD (Utf8.size text)

namespace Divides

variable {text : List Char} {segments : List (List Char)}

theorem flatten (divides : Divides text segments) : segments.flatten = text := by
  induction divides with
  | nothing => rfl
  | unended nonempty inLine => exact List.append_nil _
  | ended inLine later inductionHypothesis => rw [List.flatten_cons, inductionHypothesis]

theorem of_mem (divides : Divides text segments) : ∀ segment ∈ segments,
    segment ≠ [] ∧ '\n' ∉ segment.dropLast := by
  induction divides with
  | nothing => exact fun _ member => nomatch member
  | unended nonempty inLine =>
    intro segment member
    rw [List.mem_singleton.mp member]
    exact ⟨nonempty, fun among => inLine (List.dropLast_subset _ among)⟩
  | ended inLine later inductionHypothesis =>
    intro segment member
    rcases List.mem_cons.mp member with same | other
    · rw [same, List.dropLast_concat]
      exact ⟨List.concat_ne_nil _ _, inLine⟩
    · exact inductionHypothesis segment other

/-- A line with what stands before it and behind it. -/
theorem exists_split (divides : Divides text segments) {index : Nat} {segment : List Char}
    (own : segments[index]? = some segment) : ∃ after,
      text = (segments.take index).flatten ++ (segment ++ after) ∧
        (segments.take (index + 1)).flatten = (segments.take index).flatten ++ segment := by
  have upTo : (segments.take (index + 1)).flatten = (segments.take index).flatten ++ segment := by
    rw [List.take_add_one, own, List.flatten_append]
    simp
  refine ⟨(segments.drop (index + 1)).flatten, ?_, upTo⟩
  rw [← List.append_assoc, ← upTo, ← List.flatten_append, List.take_append_drop, divides.flatten]

/-- A walk over some lines leads to the start of the line behind them. -/
theorem walk_take (divides : Divides text segments) (width : Char → Nat) (number : Nat)
    {index : Nat} (inside : index < segments.length) :
    Position.walk width ⟨number, 1⟩ (segments.take index).flatten = ⟨number + index, 1⟩ := by
  induction divides generalizing number index with
  | nothing => exact absurd inside (Nat.not_lt_zero index)
  | unended nonempty inLine =>
    have zero : index = 0 := by simpa using inside
    rw [zero]
    rfl
  | @ended segment rest segments inLine later inductionHypothesis =>
    cases index with
    | zero => rfl
    | succ index =>
      rw [List.take_succ_cons, List.flatten_cons, Position.walk_append,
        Position.walk_newline inLine, inductionHypothesis _ (Nat.lt_of_succ_lt_succ inside)]
      simp only [Position.mk.injEq, and_true]
      omega

end Divides

end Line

namespace RuleTable

/-! ## The tokens of the lines -/

theorem line_tiles (table : RuleTable) (index offset : Nat) (segment : List Char) :
    Tiles offset segment (table.line index offset segment).tokens := by
  rw [line_tokens]
  exact table.stepsFrom_tiles offset segment

theorem line_text (table : RuleTable) (index offset : Nat) (segment : List Char) :
    (table.line index offset segment).text = segment :=
  (table.line_tiles index offset segment).joined

theorem linesFrom_text (table : RuleTable) (index offset : Nat) (segments : List (List Char)) :
    (table.linesFrom index offset segments).flatMap Line.text = segments.flatten := by
  induction segments generalizing index offset with
  | nil => rfl
  | cons segment segments inductionHypothesis =>
    rw [linesFrom, List.flatMap_cons, line_text, inductionHypothesis, List.flatten_cons]

/-- The sizes of the lines before a line tell where it starts. -/
theorem getElem?_linesFrom (table : RuleTable) (index offset : Nat) (segments : List (List Char))
    (place : Nat) : (table.linesFrom index offset segments)[place]?
      = segments[place]?.map fun segment =>
          table.line (index + place) (offset + Utf8.size (segments.take place).flatten)
            segment := by
  induction segments generalizing index offset place with
  | nil => rfl
  | cons segment segments inductionHypothesis =>
    cases place with
    | zero => rfl
    | succ place =>
      rw [linesFrom, List.getElem?_cons_succ, inductionHypothesis, List.getElem?_cons_succ,
        List.take_succ_cons, List.flatten_cons, Utf8.size_append]
      congr 2
      funext
      congr 1 <;> omega

theorem getElem?_lines (table : RuleTable) (text : List Char) (index : Nat) :
    (table.lines text)[index]? = (Line.split text)[index]?.map fun segment =>
      table.line index (Utf8.size ((Line.split text).take index).flatten) segment := by
  rw [lines, getElem?_linesFrom]
  simp only [Nat.zero_add]

theorem stopIn_lines (table : RuleTable) (text : List Char) (index : Nat) :
    Line.stopIn text (table.lines text) index
      = Utf8.size ((Line.split text).take (index + 1)).flatten := by
  rw [Line.stopIn, getElem?_lines]
  cases next : (Line.split text)[index + 1]? with
  | some segment => rfl
  | none =>
    rw [List.take_of_length_le (List.getElem?_eq_none_iff.mp next),
      (Line.split_divides text).flatten]
    rfl

/-- The lines that are handed out divide the text: a line feed is at most the last character of a
line, the tokens of a line cover the bytes up to the next line, and all of them have the number of
their line in their positions, whatever the widths of characters are. -/
theorem lines_partition (table : RuleTable) (text : List Char) (width : Char → Nat) :
    HandsOut LineStream.next (LineStream.start table text) (table.lines text) ∧
      (table.lines text).flatMap Line.text = text ∧
      (∀ line ∈ (table.lines text).head?, line.start = 0) ∧
      ∀ index line, (table.lines text)[index]? = some line →
        line.index = index ∧ line.text ≠ [] ∧ '\n' ∉ line.text.dropLast ∧
        CoversPart text line.start (Line.stopIn text (table.lines text) index) line.tokens ∧
        Position.ofOffsetWith width text line.start = ⟨index + 1, 1⟩ ∧
        ∀ token ∈ line.tokens,
          (Position.ofOffsetWith width text token.start).line = index + 1 := by
  have divides := Line.split_divides text
  refine ⟨LineStream.handsOut_linesFrom table 0 0 _, ?_, ?_, ?_⟩
  · rw [lines, linesFrom_text, divides.flatten]
  · intro line member
    rw [List.head?_eq_getElem?, getElem?_lines] at member
    obtain ⟨segment, -, rfl⟩ := Option.map_eq_some_iff.mp member
    rfl
  · intro index line found
    rw [getElem?_lines] at found
    obtain ⟨segment, own, rfl⟩ := Option.map_eq_some_iff.mp found
    obtain ⟨inside, -⟩ := List.getElem?_eq_some_iff.mp own
    obtain ⟨nonempty, inLine⟩ := divides.of_mem segment (List.mem_of_getElem? own)
    obtain ⟨after, whole, upTo⟩ := divides.exists_split own
    have reached := divides.walk_take width 1 inside
    rw [Nat.add_comm] at reached
    have tiles := table.line_tiles index (Utf8.size ((Line.split text).take index).flatten) segment
    refine ⟨rfl, ?_, ?_, ?_, ?_, ?_⟩
    · rwa [line_text]
    · rwa [line_text]
    · have covers := tiles.coversPart after
      rw [stopIn_lines, upTo, Utf8.size_append]
      rwa [← whole] at covers
    · have place := Position.ofOffsetWith_size_append width
        ((Line.split text).take index).flatten (segment ++ after)
      rw [← whole] at place
      exact place.trans reached
    · have numbers := tiles.position_line inLine width after
      rw [← whole] at numbers
      intro token member
      rw [numbers token member, Position.start, reached]

end RuleTable

end Highlighter
