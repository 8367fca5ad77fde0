import Highlighter.Proofs.Language.Rules
import Highlighter.Proofs.Rule.Row
import Mathlib.Data.List.TakeWhile

/-!
# Headers of functions

A header is a word for a function, white space, a name and, in parentheses, what
is left of the line up to the last closing parenthesis.  The first rule of the
language finds headers and nothing else, and the three classes that belong to a
header occur nowhere but in one.
-/

set_option autoImplicit false

namespace Highlighter.Setanta

/-- The spellings of the word for a function. -/
def functionWords : List (List Char) :=
  ["gniomh", "gníomh", "gnímh"].map String.toList

/-- The text of the header of a function, in its parts. -/
structure Header where
  word : List Char
  space : List Char
  name : List Char
  parameters : List Char
  word_mem : word ∈ functionWords
  space_ne_nil : space ≠ []
  isLineSpace_of_mem : ∀ c ∈ space, isLineSpace c = true
  name_ne_nil : name ≠ []
  isLetter_of_mem : ∀ c ∈ name, isLetter c = true
  newline_notMem : '\n' ∉ parameters

namespace Header

def text (header : Header) : List Char :=
  header.word ++ header.space ++ header.name ++ ['('] ++ header.parameters ++ [')']

/-- The tokens of a header that begins at byte `offset`. -/
def tokens (header : Header) (offset : Nat) : List Token :=
  Token.row offset
    [(.definition, header.word), (.plain, header.space), (.functionName, header.name),
     (.plain, ['(']), (.parameterList, header.parameters), (.plain, [')'])]

/-- The header up to its parameters. -/
def opening (header : Header) : List Char :=
  header.word ++ header.space ++ header.name ++ ['(']

theorem parameterList_mem_tokens (header : Header) (nonempty : header.parameters ≠ [])
    (offset : Nat) :
    .ofText .parameterList header.parameters (offset + Utf8.size header.opening)
      ∈ header.tokens offset := by
  refine Token.mem_row.mpr ⟨[(.definition, header.word), (.plain, header.space),
    (.functionName, header.name), (.plain, ['('])], _, _, _, rfl, nonempty, ?_⟩
  simp [opening]

theorem mem_tokens_cls {header : Header} {offset : Nat} {token : Token}
    (member : token ∈ header.tokens offset) :
    token.cls ∈ [TokenClass.definition, .plain, .functionName, .parameterList] := by
  have among := Token.piece_mem_of_mem_row member
  simp only [List.mem_cons, Prod.mk.injEq, List.not_mem_nil, or_false] at among
  rcases among with ⟨cls, -⟩ | ⟨cls, -⟩ | ⟨cls, -⟩ | ⟨cls, -⟩ | ⟨cls, -⟩ | ⟨cls, -⟩ <;>
    simp [cls]

theorem text_of_parameterList {header : Header} {offset : Nat} {token : Token}
    (member : token ∈ header.tokens offset) (parameterList : token.cls = .parameterList) :
    token.text = header.parameters := by
  have among := Token.piece_mem_of_mem_row member
  rw [parameterList] at among
  simpa using among

theorem word_ne_nil (header : Header) : header.word ≠ [] := by
  have words : ∀ word ∈ functionWords, word ≠ [] := by decide
  exact words _ header.word_mem

/-- The tokens of a header up to its name, and those behind it. -/
theorem tokens_eq (header : Header) (offset : Nat) : header.tokens offset =
    .ofText .definition header.word offset
      :: .ofText .plain header.space (offset + Utf8.size header.word)
      :: .ofText .functionName header.name
          (offset + Utf8.size header.word + Utf8.size header.space)
      :: Token.row
          (offset + Utf8.size header.word + Utf8.size header.space + Utf8.size header.name)
          [(.plain, ['(']), (.parameterList, header.parameters), (.plain, [')'])] := by
  rw [tokens, Token.row_cons header.word_ne_nil, Token.row_cons header.space_ne_nil,
    Token.row_cons header.name_ne_nil]

/-- The parts of a header with the classes that the rule lists for them. -/
def pieces (header : Header) : List (Option TokenClass × List Char) :=
  [(some .definition, header.word), (none, header.space), (some .functionName, header.name),
   (none, ['(']), (some .parameterList, header.parameters), (none, [')'])]

theorem flatMap_pieces (header : Header) : header.pieces.flatMap (·.2) = header.text := by
  simp [pieces, text]

end Header

/-! ## What the pattern takes -/

open Highlighter.Tree (Reads)

theorem i_words : Phrases.one iSet.contains = .words [['i'], ['í']] :=
  Phrases.one_pair (by decide) iSet_contains

theorem functionWordTree_reads : functionWordTree.Reads (.words functionWords) := by
  have reads := (Reads.literal ['g', 'n']).andThen
    (((Reads.chars iSet).andThen (.literal ['o', 'm', 'h'])).orElse (.literal ['í', 'm', 'h']))
  rw [i_words, Phrases.words_andThen, Phrases.words_orElse, Phrases.words_andThen] at reads
  exact reads

/-- What the groups of a header take after the first. -/
def headerPhrases : List Phrases :=
  [.someRun isLineSpace, .someRun isLetter, .words [['(']], .run (· != '\n'), .words [[')']]]

theorem headerPhrases_read : List.Forall₂ Reads
    [.run spaceSet, .run letterSet, .literal ['('], .loop true false (.chars inLineSet),
      .literal [')']] headerPhrases :=
  .cons (.someRun_of spaceSet_contains) (.cons (.someRun_of letterSet_contains)
    (.cons (.literal _) (.cons (.anyNumber_of inLineSet_contains) (.cons (.literal _) .nil))))

/-- What the groups take is a header. -/
theorem exists_header_of_mem_row {taken : List (List Char)} {text : List Char}
    (member : taken ∈ Phrases.row (.words functionWords :: headerPhrases) text) :
    ∃ (header : Header) (tail : List Char), text = header.text ++ tail := by
  obtain ⟨word, _, _, wordFound, rfl, fromSpace⟩ := functionWordTree_reads.exists_of_mem_row member
  obtain ⟨space, _, _, spaceFound, rfl, fromName⟩ :=
    (Reads.someRun_of spaceSet_contains).exists_of_mem_row fromSpace
  obtain ⟨name, _, _, nameFound, rfl, fromOpening⟩ :=
    (Reads.someRun_of letterSet_contains).exists_of_mem_row fromName
  obtain ⟨opening, _, _, openingFound, rfl, fromLine⟩ :=
    (Reads.literal _).exists_of_mem_row fromOpening
  obtain ⟨parameters, _, _, lineFound, rfl, fromClosing⟩ :=
    (Reads.anyNumber_of inLineSet_contains).exists_of_mem_row fromLine
  obtain ⟨closing, tail, _, closingFound, rfl, -⟩ := (Reads.literal _).exists_of_mem_row fromClosing
  obtain ⟨spaceNonempty, -, spaceAll⟩ := Phrases.mem_someRun.mp spaceFound
  obtain ⟨nameNonempty, -, nameAll⟩ := Phrases.mem_someRun.mp nameFound
  have lineAll := (Phrases.mem_run.mp lineFound).2
  have isOpening := List.mem_singleton.mp (Phrases.mem_words.mp openingFound).1
  have isClosing := List.mem_singleton.mp (Phrases.mem_words.mp closingFound).1
  subst isOpening isClosing
  have line : '\n' ∉ parameters := fun newline => nomatch lineAll '\n' newline
  refine ⟨⟨word, space, name, parameters, (Phrases.mem_words.mp wordFound).1, spaceNonempty,
    spaceAll, nameNonempty, nameAll, line⟩, tail, ?_⟩
  simp [Header.text]

/-- The rest of the line is taken up to its last closing parenthesis. -/
theorem head?_row_line {parameters tail : List Char} (line : '\n' ∉ parameters)
    (last : ')' ∉ tail.takeWhile (· ≠ '\n')) :
    (Phrases.row [.run (· != '\n'), .words [[')']]] (parameters ++ ')' :: tail)).head?
      = some [parameters, [')']] := by
  have closing : ∀ text : List Char, Phrases.row [.words [[')']]] (')' :: text) = [[[')']]] := by
    intro text
    exact Phrases.row_words List.mem_cons_self (by decide) text
  have inLine : ∀ c ∈ parameters, (c != '\n') = true := by
    intro c member
    exact bne_iff_ne.mpr (ne_of_mem_of_not_mem member line)
  rw [Phrases.row, Phrases.head?_run_flatMap (fun phrase text =>
    (Phrases.row [.words [[')']]] text).map (phrase :: ·)) inLine, closing]
  · rfl
  · rw [closing]
    exact List.cons_ne_nil _ _
  · -- After a longer run there is no parenthesis in the line that could close the header.
    intro more nonempty front all
    obtain ⟨rest, whole⟩ := front
    obtain ⟨c, others, rfl⟩ := List.exists_cons_of_ne_nil nonempty
    rw [← whole, List.drop_left, List.map_eq_nil_iff]
    rw [List.cons_append] at whole
    obtain ⟨rfl, rfl⟩ := List.cons.inj whole
    refine Phrases.row_eq_nil ?_
    cases rest with
    | nil => rfl
    | cons d rest =>
      by_cases again : d = ')'
      · subst again
        have othersInLine : ∀ c ∈ others, decide (c ≠ '\n') = true := by
          intro c member
          exact decide_eq_true (bne_iff_ne.mp (all c (List.mem_cons_of_mem _ member)))
        rw [List.takeWhile_append_of_pos othersInLine] at last
        simp at last
      · simp [Phrases.words, List.isPrefixOf, Ne.symm again]

/-- The parts of a header are what the groups take, if no parenthesis closes later in the line. -/
theorem head?_row (header : Header) {tail : List Char}
    (last : ')' ∉ tail.takeWhile (· ≠ '\n')) :
    (Phrases.row (.words functionWords :: headerPhrases) (header.text ++ tail)).head?
      = some (header.pieces.map (·.2)) := by
  have parts : header.text ++ tail = header.word ++ (header.space ++ (header.name
      ++ (['('] ++ (header.parameters ++ ')' :: tail)))) := by
    simp [Header.text]
  have spaceStops : ∀ others c text, isLineSpace c = true →
      Phrases.row (.someRun isLetter :: others) (c :: text) = [] := by
    intro others c text space
    refine Phrases.row_eq_nil ?_
    rw [Phrases.someRun_cons, not_isLetter_of_isLineSpace space]
    rfl
  have nameStops : ∀ others c text, isLetter c = true →
      Phrases.row (.words [['(']] :: others) (c :: text) = [] := by
    intro others c text letter
    refine Phrases.row_eq_nil ?_
    have different : c ≠ '(' := fun same => nomatch same ▸ letter
    simp [Phrases.words, List.isPrefixOf, different.symm]
  rw [parts, Phrases.row_words header.word_mem (by decide), headerPhrases,
    Phrases.row_someRun (spaceStops _) header.space_ne_nil header.isLineSpace_of_mem,
    Phrases.row_someRun (nameStops _) header.name_ne_nil header.isLetter_of_mem,
    Phrases.row_words List.mem_cons_self (by decide)]
  · simp only [List.head?_map, head?_row_line header.newline_notMem last]
    rfl
  · intro c next
    cases next
    rfl
  · intro c next
    obtain ⟨first, others, name⟩ := List.exists_cons_of_ne_nil header.name_ne_nil
    have letter := header.isLetter_of_mem first (by rw [name]; exact List.mem_cons_self)
    rw [name] at next
    cases next
    exact not_isLineSpace_of_isNameChar (isNameChar_of_isLetter letter)

/-- A header can be chosen such that no parenthesis closes later in the line. -/
theorem Header.exists_last (header : Header) (tail : List Char) :
    ∃ (longest : Header) (rest : List Char), header.text ++ tail = longest.text ++ rest ∧
      ')' ∉ rest.takeWhile (· ≠ '\n') := by
  induction size : tail.length using Nat.strong_induction_on generalizing header tail with
  | _ count inductionHypothesis =>
    subst size
    -- A parenthesis later in the line ends a longer header, after which less text is left.
    by_cases last : ')' ∈ tail.takeWhile (· ≠ '\n')
    · obtain ⟨front, back, split⟩ := List.append_of_mem last
      have whole : tail = front ++ ')' :: (back ++ tail.dropWhile (· ≠ '\n')) := by
        conv_lhs => rw [← List.takeWhile_append_dropWhile (p := (· ≠ '\n')) (l := tail), split]
        rw [List.append_assoc, List.cons_append]
      have inLine : '\n' ∉ front := by
        intro newline
        have member : '\n' ∈ tail.takeWhile (· ≠ '\n') := by
          rw [split]
          exact List.mem_append_left _ newline
        have different := List.mem_takeWhile_imp member
        simp at different
      have lineParameters : '\n' ∉ header.parameters ++ ')' :: front := by
        simp [header.newline_notMem, inLine]
      have shorter : (back ++ tail.dropWhile (· ≠ '\n')).length < tail.length := by
        have total := congrArg List.length whole
        rw [List.length_append, List.length_cons] at total
        omega
      obtain ⟨longest, rest, same, final⟩ := inductionHypothesis _ shorter
        { header with
          parameters := header.parameters ++ ')' :: front, newline_notMem := lineParameters } _ rfl
      refine ⟨longest, rest, ?_, final⟩
      rw [← same]
      conv_lhs => rw [whole]
      simp [text]
    · exact ⟨header, tail, rfl, last⟩

/-! ## The rule -/

theorem functionHeaderTree_simple : functionHeaderTree.Simple :=
  .of_isSimple (by decide)

/-- The rule takes a header up to the last closing parenthesis of the line. -/
theorem functionHeaderRule_match? (header : Header) {tail : List Char}
    (last : ')' ∉ tail.takeWhile (· ≠ '\n')) (offset : Nat) :
    functionHeaderRule.match? offset (header.text ++ tail)
      = some ⟨header.text.length, header.tokens offset⟩ := by
  have nonempty : header.pieces.flatMap (·.2) ≠ [] := by
    simp [Header.pieces]
  have preferred := head?_row header last
  rw [← header.flatMap_pieces] at preferred ⊢
  exact Rule.match?_row_eq_some functionHeaderTree_simple functionWordTree_reads
    headerPhrases_read rfl preferred rfl rfl nonempty offset

theorem functionHeaderRule_eq_none {text : List Char}
    (none : ∀ (header : Header) (tail : List Char), text ≠ header.text ++ tail) (offset : Nat) :
    functionHeaderRule.match? offset text = .none := by
  refine Rule.match?_row_eq_none functionHeaderTree_simple functionWordTree_reads
    headerPhrases_read rfl ?_ offset
  refine List.eq_nil_iff_forall_not_mem.mpr fun taken member => ?_
  obtain ⟨header, tail, whole⟩ := exists_header_of_mem_row member
  exact none header tail whole

/-! ## Headers in a text -/

/-- A header that a text begins with, with no parenthesis that closes later in the line. -/
def Header.Heads (header : Header) (text : List Char) : Prop :=
  ∃ tail, text = header.text ++ tail ∧ ')' ∉ tail.takeWhile (· ≠ '\n')

theorem step_header {header : Header} {c : Char} {rest : List Char}
    (heads : header.Heads (c :: rest)) (offset : Nat) : table.step offset c rest
      = ⟨offset, .matched "function_header", header.text.length, header.tokens offset⟩ := by
  obtain ⟨tail, whole, last⟩ := heads
  have finds := functionHeaderRule_match? header last offset
  rw [← whole] at finds
  exact table.step_of_match? [] rfl (fun _ none => nomatch none) finds

/-- Only the first rule has the name and the classes of a header. -/
theorem table_tail : ∀ rule ∈ table.rules.tail, rule.name ≠ "function_header" ∧
    ∀ cls ∈ [TokenClass.definition, .functionName, .parameterList],
      cls ∉ rule.labelling.classes := by
  decide

theorem match?_of_decision {offset : Nat} {c : Char} {rest : List Char}
    (decision : (table.step offset c rest).decision = .matched "function_header") :
    ∃ found, functionHeaderRule.match? offset (c :: rest) = some found := by
  rcases table.step_cases offset c rest with ⟨rule, member, found, finds, same⟩ | ⟨_, same⟩
  · rcases List.mem_cons.mp member with rfl | other
    · exact ⟨found, finds⟩
    · rw [same] at decision
      injection decision with name
      exact absurd name (table_tail rule other).1
  · rw [same] at decision
    cases decision

theorem exists_heads_of_match? {offset : Nat} {text : List Char} {found : Rule.Found}
    (finds : functionHeaderRule.match? offset text = some found) :
    ∃ header : Header, header.Heads text := by
  by_contra none
  rw [functionHeaderRule_eq_none _ offset] at finds
  · cases finds
  · intro header tail whole
    obtain ⟨longest, rest, same, last⟩ := header.exists_last tail
    exact none ⟨longest, rest, whole.trans same, last⟩

/-- A token of a class that belongs to headers comes from a step over a header. -/
theorem decision_of_token {offset : Nat} {c : Char} {rest : List Char} {token : Token}
    (member : token ∈ (table.step offset c rest).tokens)
    (header : token.cls ∈ [TokenClass.definition, .functionName, .parameterList]) :
    (table.step offset c rest).decision = .matched "function_header" := by
  rcases table.step_cases offset c rest with ⟨rule, among, found, finds, same⟩ | ⟨_, same⟩
  · rcases List.mem_cons.mp among with rfl | other
    · rw [same]
      rfl
    · rw [same] at member
      exact absurd (Rule.match?_cls finds token member) ((table_tail rule other).2 _ header)
  · rw [same] at member
    rw [List.mem_singleton.mp member] at header
    simp [Token.ofText] at header

/-- The rule for headers decides where a header begins and nowhere else, and then it takes the
header up to the last closing parenthesis of the line.  Its classes occur nowhere else. -/
theorem functionHeader_steps : ∃ table, RuleTable.setanta = .ok table ∧ ∀ text,
    (∀ step ∈ table.steps text, ∃ rest, Utf8.drop? step.offset text = some rest ∧
      (step.decision = .matched "function_header" ↔ ∃ header : Header, header.text <+: rest) ∧
      (step.decision = .matched "function_header" → ∃ header : Header, header.Heads rest) ∧
      ∀ header : Header, header.Heads rest →
        step.length = header.text.length ∧ step.tokens = header.tokens step.offset) ∧
    ∀ token ∈ table.tokens text, token.cls ∈ [.definition, .functionName, .parameterList] →
      ∃ step ∈ table.steps text, step.decision = .matched "function_header" ∧
        token ∈ step.tokens := by
  refine ⟨table, setanta_eq, fun text => ⟨?_, ?_⟩⟩
  · intro step member
    obtain ⟨before, c, rest, rfl, rfl⟩ := RuleTable.mem_steps member
    have heads : (table.step (Utf8.size before) c rest).decision = .matched "function_header" →
        ∃ header : Header, header.Heads (c :: rest) := by
      intro decision
      obtain ⟨found, finds⟩ := match?_of_decision decision
      exact exists_heads_of_match? finds
    rw [RuleTable.step_offset]
    refine ⟨c :: rest, Utf8.drop?_size_append before (c :: rest), ⟨?_, ?_⟩, heads, ?_⟩
    · intro decision
      obtain ⟨header, tail, whole, -⟩ := heads decision
      exact ⟨header, tail, whole.symm⟩
    · rintro ⟨header, tail, whole⟩
      obtain ⟨longest, later, same, last⟩ := header.exists_last tail
      rw [step_header ⟨later, whole.symm.trans same, last⟩]
    · intro header front
      rw [step_header front]
      exact ⟨rfl, rfl⟩
  · intro token member header
    obtain ⟨step, stepMember, own⟩ := List.mem_flatMap.mp member
    refine ⟨step, stepMember, ?_, own⟩
    obtain ⟨before, c, rest, rfl, rfl⟩ := RuleTable.mem_steps stepMember
    exact decision_of_token own header

end Highlighter.Setanta
