import Highlighter.Proofs.Pattern.FirstReading
import Highlighter.Proofs.Pattern.Phrases
import Highlighter.Proofs.Rule.Cover

/-!
# The tokens of simple rules

A rule that labels its match as a whole makes one token of the phrase that its
pattern prefers.  A rule whose pattern is a row of groups makes a token of each
phrase that is not empty.
-/

set_option autoImplicit false

namespace Highlighter

/-- The tokens of pieces of text that lie end to end.  An empty piece has none. -/
def Token.row (offset : Nat) : List (TokenClass × List Char) → List Token
  | [] => []
  | (cls, text) :: pieces =>
    (if text = [] then [] else [.ofText cls text offset])
      ++ row (offset + Utf8.size text) pieces

theorem Token.mem_row {pieces : List (TokenClass × List Char)} {token : Token} : ∀ {offset : Nat},
    token ∈ Token.row offset pieces ↔ ∃ front cls text back, pieces = front ++ (cls, text) :: back ∧
      text ≠ [] ∧ token = .ofText cls text (offset + Utf8.size (front.flatMap (·.2))) := by
  induction pieces with
  | nil => simp [Token.row]
  | cons piece pieces inductionHypothesis =>
    obtain ⟨cls, text⟩ := piece
    intro offset
    rw [Token.row, List.mem_append, inductionHypothesis]
    constructor
    · rintro (own | ⟨front, other, segment, back, rfl, filled, rfl⟩)
      · by_cases empty : text = []
        · rw [if_pos empty] at own
          cases own
        · rw [if_neg empty] at own
          exact ⟨[], cls, text, pieces, rfl, empty, List.mem_singleton.mp own⟩
      · refine ⟨(cls, text) :: front, other, segment, back, rfl, filled, ?_⟩
        rw [List.flatMap_cons, Utf8.size_append, Nat.add_assoc]
    · rintro ⟨front, other, segment, back, split, filled, rfl⟩
      cases front with
      | nil =>
        cases split
        exact .inl (by simp [filled])
      | cons first front =>
        obtain ⟨rfl, rfl⟩ := List.cons.inj split
        refine .inr ⟨front, other, segment, back, rfl, filled, ?_⟩
        rw [List.flatMap_cons, Utf8.size_append, Nat.add_assoc]

/-- A token of a row is one of its pieces. -/
theorem Token.piece_mem_of_mem_row {pieces : List (TokenClass × List Char)} {token : Token}
    {offset : Nat} (member : token ∈ Token.row offset pieces) :
    (token.cls, token.text) ∈ pieces := by
  obtain ⟨front, cls, text, back, rfl, -, rfl⟩ := Token.mem_row.mp member
  exact List.mem_append_right _ List.mem_cons_self

theorem Token.row_cons {cls : TokenClass} {text : List Char} (nonempty : text ≠ [])
    (offset : Nat) (pieces : List (TokenClass × List Char)) :
    Token.row offset ((cls, text) :: pieces)
      = .ofText cls text offset :: Token.row (offset + Utf8.size text) pieces := by
  rw [row, if_neg nonempty, List.singleton_append]

namespace Match

/-- The groups from `number` on lie end to end from `cursor` up to the end of the match. -/
def HasRow (found : Match) (number cursor : Nat) : List (List Char) → Prop
  | [] => found.span.stop = cursor
  | phrase :: phrases =>
    found.group? number = some ⟨cursor, cursor + phrase.length⟩
      ∧ found.HasRow (number + 1) (cursor + phrase.length) phrases

end Match

namespace Reading

theorem lookup_captures (phrases : List (List Char)) : ∀ number later reading, number < later →
    (captures later phrases reading).path.groups.lookup number
      = reading.path.groups.lookup number := by
  induction phrases with
  | nil => exact fun _ _ _ _ => rfl
  | cons phrase phrases inductionHypothesis =>
    intro number later reading order
    have different : (number == later) = false := beq_false_of_ne (Nat.ne_of_lt order)
    rw [captures, inductionHypothesis number _ _ (Nat.lt_succ_of_lt order), capture_path,
      List.lookup_cons, different]

theorem captures_hasRow (phrases : List (List Char)) : ∀ number reading,
    (captures number phrases reading).toMatch.HasRow number reading.index phrases := by
  induction phrases with
  | nil => exact fun _ _ => rfl
  | cons phrase phrases inductionHypothesis =>
    intro number reading
    have own := lookup_captures phrases number (number + 1) (reading.capture number phrase)
      (Nat.lt_succ_self number)
    refine ⟨?_, inductionHypothesis (number + 1) (reading.capture number phrase)⟩
    rw [capture_path, List.lookup_cons, beq_self_eq_true] at own
    exact own

theorem captures_index (phrases : List (List Char)) : ∀ number reading,
    (captures number phrases reading).index = reading.index + phrases.flatten.length := by
  induction phrases with
  | nil => exact fun _ _ => rfl
  | cons phrase phrases inductionHypothesis =>
    intro number reading
    rw [captures, inductionHypothesis, capture_index, List.flatten_cons, List.length_append,
      Nat.add_assoc]

end Reading

namespace Labelling

theorem stretch_middle (cls : TokenClass) (offset : Nat) (front phrase tail : List Char) :
    stretch cls (front ++ (phrase ++ tail)) offset front.length (front.length + phrase.length)
      = .ofText cls phrase (offset + Utf8.size front) := by
  have middle : (front ++ (phrase ++ tail)).take (front.length + phrase.length)
      = front ++ phrase := by
    rw [← List.append_assoc, ← List.length_append]
    exact List.take_left
  unfold stretch
  rw [middle, List.drop_left, List.take_left]

theorem groupTokens_row (offset : Nat) (found : Match) (tail : List Char)
    (pieces : List (Option TokenClass × List Char)) : ∀ number front,
      found.HasRow number front.length (pieces.map (·.2)) →
        groupTokens (front ++ (pieces.flatMap (·.2) ++ tail)) offset found number front.length
            (pieces.map (·.1))
          = Token.row (offset + Utf8.size front)
              (pieces.map fun piece => (piece.1.getD .plain, piece.2)) := by
  induction pieces with
  | nil =>
    intro number front row
    have stop : found.span.stop = front.length := row
    simp [groupTokens, gap, stop, Token.row]
  | cons piece pieces inductionHypothesis =>
    intro number front row
    obtain ⟨cls, phrase⟩ := piece
    obtain ⟨own, others⟩ := row
    have later := inductionHypothesis (number + 1) (front ++ phrase)
    rw [List.length_append] at later
    have rest := later others
    rw [List.append_assoc, ← List.append_assoc phrase, Utf8.size_append, ← Nat.add_assoc] at rest
    rw [List.map_cons, List.flatMap_cons, groupTokens, own]
    dsimp only
    by_cases empty : phrase = []
    · subst empty
      rw [if_neg fun order => Nat.lt_irrefl _ order.1]
      simpa [Token.row] using rest
    · have order : front.length < front.length + phrase.length :=
        Nat.lt_add_of_pos_right (List.length_pos_iff.mpr empty)
      rw [if_pos ⟨order, Nat.le_refl _⟩, rest, List.append_assoc phrase, stretch_middle]
      simp [gap, Token.row, empty]

/-- The tokens of a match whose groups lie end to end from the start of the text. -/
theorem tokens_row (offset : Nat) {found : Match} (tail : List Char)
    (pieces : List (Option TokenClass × List Char))
    (row : found.HasRow 1 0 (pieces.map (·.2))) :
    (groups (pieces.map (·.1))).tokens offset (pieces.flatMap (·.2) ++ tail) found
      = Token.row offset (pieces.map fun piece => (piece.1.getD .plain, piece.2)) :=
  groupTokens_row offset found tail pieces 1 [] row

end Labelling

namespace Labelling

/-- The classes that tokens of a match can have. -/
def classes : Labelling → List TokenClass
  | whole cls => [cls]
  | groups classes => .plain :: classes.map (·.getD .plain)

theorem gap_cls {text : List Char} {offset start stop : Nat} {token : Token}
    (member : token ∈ gap text offset start stop) : token.cls = .plain := by
  unfold gap at member
  split at member
  · rw [List.mem_singleton.mp member]
    rfl
  · cases member

theorem groupTokens_cls {text : List Char} {offset : Nat} {found : Match} {token : Token}
    (classes : List (Option TokenClass)) : ∀ number cursor,
      token ∈ groupTokens text offset found number cursor classes →
        token.cls = .plain ∨ ∃ cls ∈ classes, token.cls = cls.getD .plain := by
  induction classes with
  | nil => exact fun _ _ member => .inl (gap_cls member)
  | cons cls classes inductionHypothesis =>
    have later : ∀ number cursor, token ∈ groupTokens text offset found number cursor classes →
        token.cls = .plain ∨ ∃ other ∈ cls :: classes, token.cls = other.getD .plain := by
      intro number cursor member
      rcases inductionHypothesis number cursor member with plain | ⟨other, among, same⟩
      · exact .inl plain
      · exact .inr ⟨other, List.mem_cons_of_mem _ among, same⟩
    intro number cursor member
    unfold groupTokens at member
    split at member
    · exact later _ _ member
    · split at member
      · rcases List.mem_append.mp member with front | after
        · rcases List.mem_append.mp front with before | own
          · exact .inl (gap_cls before)
          · rw [List.mem_singleton.mp own]
            exact .inr ⟨cls, List.mem_cons_self, rfl⟩
        · exact later _ _ after
      · exact later _ _ member

theorem tokens_cls {labelling : Labelling} {offset : Nat} {text : List Char} {found : Match}
    {token : Token} (member : token ∈ labelling.tokens offset text found) :
    token.cls ∈ labelling.classes := by
  cases labelling with
  | whole cls =>
    rw [List.mem_singleton.mp member]
    exact List.mem_singleton_self cls
  | groups classes =>
    rcases groupTokens_cls classes 1 0 member with plain | ⟨cls, among, same⟩
    · rw [plain]
      exact List.mem_cons_self
    · rw [same]
      exact List.mem_cons_of_mem _ (List.mem_map_of_mem among)

end Labelling

namespace Rule

/-- The tokens of a rule have the classes of its labelling. -/
theorem match?_cls {rule : Rule} {offset : Nat} {text : List Char} {found : Found}
    (finds : rule.match? offset text = some found) :
    ∀ token ∈ found.tokens, token.cls ∈ rule.labelling.classes := by
  obtain ⟨_, _, _, _, rfl⟩ := match?_eq_some finds
  exact fun _ member => Labelling.tokens_cls member

variable {rule : Rule} {count : Nat}

/-- A rule that labels its match as a whole makes one token of the preferred phrase. -/
theorem match?_whole {body : Tree} {phrases : Phrases} (simple : body.Simple)
    (reads : body.Reads phrases) (pattern : rule.pattern = .atStart body count) {cls : TokenClass}
    (labelling : rule.labelling = .whole cls) (offset : Nat) (text : List Char) :
    rule.match? offset text = (phrases text).head?.bind fun phrase =>
      if phrase ≠ [] ∧ rule.mayEndBefore (text.drop phrase.length) then
        some ⟨phrase.length, [.ofText cls phrase offset]⟩
      else none := by
  unfold match?
  rw [pattern, Pattern.find?_atStart simple, reads.readings, labelling]
  cases front : phrases text with
  | nil => simp [Reading.start, front]
  | cons phrase others =>
    have member : phrase ∈ phrases text := by
      rw [front]
      exact List.mem_cons_self
    obtain ⟨tail, whole⟩ := reads.prefixed text phrase member
    have token : Labelling.stretch cls text offset 0 phrase.length = .ofText cls phrase offset := by
      have middle := Labelling.stretch_middle cls offset [] phrase tail
      rw [List.nil_append, whole, List.length_nil, Nat.zero_add] at middle
      exact middle
    simp [Reading.start, Reading.past, Reading.toMatch, Match.ofPath, front, Labelling.tokens,
      token]

theorem match?_whole_cases (rule : Rule) {body : Tree} {phrases : Phrases}
    (simple : body.Simple) (reads : body.Reads phrases)
    (pattern : rule.pattern = .atStart body count) {cls : TokenClass}
    (labelling : rule.labelling = .whole cls) (offset : Nat) (text : List Char) :
    (phrases text = [] ∧ rule.match? offset text = none) ∨
      ∃ phrase rest, phrase ∈ phrases text ∧ text = phrase ++ rest ∧
        rule.match? offset text =
          if phrase ≠ [] ∧ rule.mayEndBefore rest then
            some ⟨phrase.length, [.ofText cls phrase offset]⟩
          else none := by
  rw [match?_whole simple reads pattern labelling]
  cases front : phrases text with
  | nil => exact .inl ⟨rfl, rfl⟩
  | cons phrase others =>
    have member : phrase ∈ phrases text := by
      rw [front]
      exact List.mem_cons_self
    obtain ⟨rest, whole⟩ := reads.prefixed text phrase member
    refine .inr ⟨phrase, rest, List.mem_cons_self, whole.symm, ?_⟩
    rw [← whole, List.head?_cons, Option.bind_some, List.drop_left]

/-- A rule for a run of characters takes the longest one. -/
theorem match?_someRun {body : Tree} {accepts : Char → Bool} (simple : body.Simple)
    (reads : body.Reads (.someRun accepts)) (pattern : rule.pattern = .atStart body count)
    {cls : TokenClass} (labelling : rule.labelling = .whole cls) (free : rule.barred? = none)
    (offset : Nat) (text : List Char) :
    rule.match? offset text =
      if text.takeWhile accepts = [] then none
      else some ⟨(text.takeWhile accepts).length,
        [.ofText cls (text.takeWhile accepts) offset]⟩ := by
  rw [match?_whole simple reads pattern labelling, Phrases.head?_someRun]
  by_cases empty : text.takeWhile accepts = []
  · simp [empty]
  · simp [empty, mayEndBefore, free]

section Rows
variable {first : Tree} {others : List Tree} {phrases : Phrases} {otherPhrases : List Phrases}
  (simple : (Tree.row 1 first others).Simple) (firstReads : first.Reads phrases)
  (otherReads : List.Forall₂ Tree.Reads others otherPhrases)
  (pattern : rule.pattern = .atStart (.row 1 first others) count)
include simple firstReads otherReads pattern

theorem match?_row_eq_none {text : List Char}
    (nothing : Phrases.row (phrases :: otherPhrases) text = []) (offset : Nat) :
    rule.match? offset text = none := by
  unfold match?
  rw [pattern, Pattern.find?_atStart simple, Tree.row_readings firstReads otherReads]
  simp [Reading.start, nothing]

/-- A rule whose groups form a row makes a token of each phrase that is not empty. -/
theorem match?_row_eq_some {pieces : List (Option TokenClass × List Char)} {tail : List Char}
    (preferred : (Phrases.row (phrases :: otherPhrases) (pieces.flatMap (·.2) ++ tail)).head?
      = some (pieces.map (·.2)))
    (labelling : rule.labelling = .groups (pieces.map (·.1))) (free : rule.barred? = none)
    (nonempty : pieces.flatMap (·.2) ≠ []) (offset : Nat) :
    rule.match? offset (pieces.flatMap (·.2) ++ tail)
      = some ⟨(pieces.flatMap (·.2)).length,
          Token.row offset (pieces.map fun piece => (piece.1.getD .plain, piece.2))⟩ := by
  generalize text : pieces.flatMap (·.2) ++ tail = whole at preferred
  have finds : rule.pattern.find? whole
      = some ((Reading.start whole).captures 1 (pieces.map (·.2))).toMatch := by
    rw [pattern, Pattern.find?_atStart simple, Tree.row_readings firstReads otherReads,
      List.head?_map, show (Reading.start whole).rest = whole from rfl, preferred]
    rfl
  have stop : ((Reading.start whole).captures 1 (pieces.map (·.2))).toMatch.span.stop
      = (pieces.flatMap (·.2)).length := by
    have index := Reading.captures_index (pieces.map (·.2)) 1 (.start whole)
    rw [← List.flatMap_def] at index
    exact index.trans (Nat.zero_add _)
  have row := Reading.captures_hasRow (pieces.map (·.2)) 1 (.start whole)
  unfold match? mayEndBefore
  rw [finds, free]
  dsimp only
  rw [stop, if_pos ⟨fun zero => nonempty (List.length_eq_zero_iff.mp zero), rfl⟩, labelling, ← text,
    Labelling.tokens_row offset tail pieces (text ▸ row)]

end Rows

end Rule

end Highlighter
