import Highlighter.Proofs.Language.Words
import Highlighter.Proofs.Scan.AnyOffset
import Highlighter.Proofs.Scan.Order
import Highlighter.Proofs.Scan.Stream
import Mathlib.Data.List.Nodup

/-!
# The order of the rules of Setanta

Where a rule matches, what matters is the run of characters of names that the text
begins with: each rule but the last asks for certain runs, and the last one for
any that is not empty.  Few pairs of rules share a run, and only those have to
keep their order.  The rule for words that open a block matches nothing that the
rule for reserved words leaves over, so it never decides a step.
-/

set_option autoImplicit false

namespace Highlighter.Setanta

/-- The pairs of rules of which the first has to be tried before the second. -/
def precedence : List (String × String) :=
  [("function_header", "keyword"), ("function_header", "identifier"), ("keyword", "block_keyword"),
   ("keyword", "identifier"), ("builtin", "identifier"), ("atom", "identifier"),
   ("number", "operator")]

def Precedes (rule other : Rule) : Prop :=
  (rule.name, other.name) ∈ precedence

instance (rule other : Rule) : Decidable (Precedes rule other) :=
  inferInstanceAs (Decidable (_ ∈ precedence))

/-- The runs that a rule asks for, for each rule but the last. -/
def runs : List (String × List (List Char)) :=
  [("function_header", functionWords), ("keyword", whenWord :: controlWords),
   ("builtin", outputWords), ("block_keyword", blockWords), ("atom", truthWords),
   ("number", [[]]), ("operator", [[]])]

/-! ## The run where a rule matches -/

section Run

variable {offset : Nat} {text : List Char} {rule : Rule}

theorem run_mem {words : List (List Char)} (finds : rule.Matches offset text)
    (none : text.takeWhile isNameChar ∉ words → rule.match? offset text = .none) :
    text.takeWhile isNameChar ∈ words := by
  by_contra other
  obtain ⟨found, search⟩ := finds
  rw [none other] at search
  cases search

theorem run_mem_nil (finds : rule.Matches offset text)
    (none : ∀ c rest, isNameChar c = true → rule.match? offset (c :: rest) = .none) :
    text.takeWhile isNameChar ∈ [[]] := by
  apply run_mem finds
  intro goesOn
  cases text with
  | nil => simp at goesOn
  | cons c rest =>
    apply none
    by_contra other
    simp [other] at goesOn

theorem functionHeaderRule_run (finds : functionHeaderRule.Matches offset text) :
    text.takeWhile isNameChar ∈ functionWords := by
  obtain ⟨found, search⟩ := finds
  obtain ⟨header, tail, rfl, -⟩ := exists_heads_of_match? search
  obtain ⟨first, others, space⟩ := List.exists_cons_of_ne_nil header.space_ne_nil
  have ends : isNameChar first = false :=
    not_isNameChar_of_isLineSpace (header.isLineSpace_of_mem first (by simp [space]))
  have words : functionWords ⊆ controlWords := by decide
  have all := (isNameChar_of_reserved (reserved_of_control (words header.word_mem))).2
  have run : (header.text ++ tail).takeWhile isNameChar = header.word := by
    simp only [Header.text, space, List.append_assoc, List.cons_append]
    rw [List.takeWhile_append_of_pos all, List.takeWhile_cons_of_neg (by simp [ends]),
      List.append_nil]
  rw [run]
  exact header.word_mem

theorem keywordRule_eq_none (other : text.takeWhile isNameChar ∉ whenWord :: controlWords) :
    keywordRule.match? offset text = none := by
  rw [List.mem_cons, not_or] at other
  rw [keywordRule_match?, keywordAt?, if_neg other.2, pairAt?_eq_none other.1, Option.map_none]

theorem identifierRule_run (finds : identifierRule.Matches offset text) :
    text.takeWhile isNameChar ≠ [] := by
  obtain ⟨found, search⟩ := finds
  intro empty
  rw [identifierRule_match?, if_pos empty] at search
  cases search

/-- A rule that matches is the last one, or the run is among those it asks for. -/
theorem exists_run (among : rule ∈ table.rules) (finds : rule.Matches offset text) :
    rule = identifierRule ∨
      ∃ words, (rule.name, words) ∈ runs ∧ text.takeWhile isNameChar ∈ words := by
  simp only [table, List.mem_cons, List.not_mem_nil, or_false] at among
  rcases among with rfl | rfl | rfl | rfl | rfl | rfl | rfl | rfl
  · exact .inr ⟨functionWords, by decide, functionHeaderRule_run finds⟩
  · exact .inr ⟨whenWord :: controlWords, by decide, run_mem finds keywordRule_eq_none⟩
  · exact .inr ⟨outputWords, by decide, run_mem finds fun other => by
      rw [builtinRule_match?, if_neg other]⟩
  · exact .inr ⟨blockWords, by decide, run_mem finds (blockKeywordRule_eq_none · offset)⟩
  · exact .inr ⟨truthWords, by decide, run_mem finds fun other => by
      rw [atomRule_match?, if_neg other]⟩
  · exact .inr ⟨[[]], by decide, run_mem_nil finds fun _ rest inName =>
      numberRule_eq_none inName rest offset⟩
  · exact .inr ⟨[[]], by decide, run_mem_nil finds fun _ rest inName =>
      operatorRule_eq_none inName rest offset⟩
  · exact .inl rfl

/-- Where a word opens a block, the rule for reserved words takes the word. -/
theorem keywordRule_match?_of_block (finds : blockKeywordRule.Matches offset text) :
    text.takeWhile isNameChar ∈ blockWords ∧
      keywordRule.match? offset text = some ⟨(text.takeWhile isNameChar).length,
        [.ofText .keyword (text.takeWhile isNameChar) offset]⟩ := by
  have opens := run_mem finds (blockKeywordRule_eq_none · offset)
  refine ⟨opens, ?_⟩
  rw [keywordRule_match?, keywordAt?, if_pos (blockWords_subset opens)]
  rfl

theorem keywordRule_matches_of_block (finds : blockKeywordRule.Matches offset text) :
    keywordRule.Matches offset text :=
  ⟨_, (keywordRule_match?_of_block finds).2⟩

end Run

/-! ## Which rule is the first -/

/-- Rules that share a run are in a settled order. -/
theorem runs_settled : ∀ one ∈ runs, ∀ other ∈ runs,
    one.1 = other.1 ∨ (one.1, other.1) ∈ precedence ∨ (other.1, one.1) ∈ precedence ∨
      ∀ run ∈ one.2, run ∉ other.2 := by
  decide +kernel

/-- A rule that asks for a run that is not empty precedes the last one, but for the rule of words
that open a block. -/
theorem runs_precede : ∀ one ∈ runs,
    (one.1, "identifier") ∈ precedence ∨ one.1 = "block_keyword" ∨ ∀ run ∈ one.2, run = [] := by
  decide +kernel

theorem table_names : (table.rules.map Rule.name).Nodup := by
  decide

theorem eq_of_name {rule other : Rule} (among : rule ∈ table.rules)
    (otherAmong : other ∈ table.rules) (name : rule.name = other.name) : rule = other :=
  List.inj_on_of_nodup_map table_names among otherAmong name

theorem table_respects : RuleTable.Respects Precedes table.rules := by
  unfold RuleTable.Respects
  decide +kernel

section Settled

variable {offset : Nat} {text : List Char}

theorem identifier_settled {rule : Rule} (among : rule ∈ table.rules)
    (finds : rule.Matches offset text) (name : identifierRule.Matches offset text) :
    rule = identifierRule ∨ Precedes rule identifierRule ∨
      ∃ third ∈ table.rules, third.Matches offset text ∧ Precedes third rule ∧
        Precedes third identifierRule := by
  rcases exists_run among finds with last | ⟨words, asks, run⟩
  · exact .inl last
  · rcases runs_precede _ asks with before | block | empty
    · exact .inr (.inl before)
    · -- A word that opens a block is a reserved word of control, and that rule precedes both.
      have same : rule = blockKeywordRule := eq_of_name among (by simp [table]) block
      subst same
      exact .inr (.inr ⟨keywordRule, by simp [table], keywordRule_matches_of_block finds,
        by decide, by decide⟩)
    · exact absurd (empty _ run) (identifierRule_run name)

/-- Wherever two rules match, their order or that of a third one is settled. -/
theorem table_settles (offset : Nat) (text : List Char) :
    RuleTable.Settles Precedes table.rules offset text := by
  intro rule among other otherAmong finds otherFinds
  rcases exists_run among finds with rfl | ⟨words, asks, run⟩
  · rcases identifier_settled otherAmong otherFinds finds with same | before | third
    · exact .inl same.symm
    · exact .inr (.inr (.inl before))
    · obtain ⟨third, thirdAmong, thirdFinds, beforeOther, beforeLast⟩ := third
      exact .inr (.inr (.inr ⟨third, thirdAmong, thirdFinds, beforeLast, beforeOther⟩))
  · rcases exists_run otherAmong otherFinds with rfl | ⟨otherWords, otherAsks, otherRun⟩
    · rcases identifier_settled among finds otherFinds with same | before | third
      · exact .inl same
      · exact .inr (.inl before)
      · exact .inr (.inr (.inr third))
    · rcases runs_settled _ asks _ otherAsks with name | before | after | apart
      · exact .inl (eq_of_name among otherAmong name)
      · exact .inr (.inl before)
      · exact .inr (.inr (.inl after))
      · exact absurd otherRun (apart _ run)

end Settled

/-- Every order of the rules that keeps the pairs of `precedence` divides a text alike. -/
theorem tokens_reordered : ∃ table, RuleTable.setanta = .ok table ∧
    ∀ rules : List Rule, rules.Perm table.rules →
      (rules.Pairwise fun earlier later => (later.name, earlier.name) ∉ precedence) →
      ∀ text, (RuleTable.mk rules).tokens text = table.tokens text ∧
        HandsOut Stream.next (Stream.start ⟨rules⟩ text) (table.tokens text) := by
  refine ⟨table, setanta_eq, fun rules permutation reordered text => ?_⟩
  have steps := RuleTable.stepsFrom_perm permutation table_respects reordered table_settles 0 text
  have tokens : (RuleTable.mk rules).tokens text = table.tokens text := by
    unfold RuleTable.tokens RuleTable.steps
    rw [steps]
  refine ⟨tokens, ?_⟩
  rw [← tokens]
  exact (Stream.start ⟨rules⟩ text).handsOut_tokensLeft

/-- Another order of the rules: numbers first, and words that open a block last. -/
def numbersFirst : List Rule :=
  [numberRule, operatorRule, atomRule, builtinRule, functionHeaderRule, keywordRule,
   identifierRule, blockKeywordRule]

theorem tokens_reordered_numbersFirst :
    numbersFirst.Perm table.rules ∧
      (numbersFirst.Pairwise fun earlier later => (later.name, earlier.name) ∉ precedence) ∧
      (RuleTable.mk numbersFirst).tokens "má\x7b gníomh dó(x) -.5e1".toList
        = table.tokens "má\x7b gníomh dó(x) -.5e1".toList ∧
      HandsOut Stream.next (Stream.start ⟨numbersFirst⟩ "má\x7b gníomh dó(x) -.5e1".toList)
        (table.tokens "má\x7b gníomh dó(x) -.5e1".toList) := by
  have places : [5, 6, 4, 2, 0, 1, 7, 3].Perm [0, 1, 2, 3, 4, 5, 6, 7] := by decide
  have permutation : numbersFirst.Perm table.rules := by
    have moved := places.map fun place => table.rules.getD place identifierRule
    exact moved
  have ordered : numbersFirst.Pairwise fun earlier later =>
      (later.name, earlier.name) ∉ precedence := by
    decide +kernel
  obtain ⟨loaded, loads, same⟩ := tokens_reordered
  have isTable : loaded = table := Except.ok.inj (loads.symm.trans setanta_eq)
  subst isTable
  exact ⟨permutation, ordered, same numbersFirst permutation ordered _⟩

/-- Operators before numbers would take the sign of a number. -/
example : (RuleTable.mk [operatorRule, numberRule]).tokens "-1".toList
    ≠ (RuleTable.mk [numberRule, operatorRule]).tokens "-1".toList := by
  decide +kernel

/-! ## The rule that decides nothing -/

/-- The rule for words that open a block makes tokens only where the rule for reserved words takes
that word, which is tried before it.  So without it every text is divided as before. -/
theorem blockKeyword_shadowed : ∃ earlier later blockKeywordRule keywordRule,
    RuleTable.setanta = .ok ⟨earlier ++ blockKeywordRule :: later⟩ ∧
    blockKeyword = .ok blockKeywordRule ∧ keyword = .ok keywordRule ∧
    (∀ text offset tokens, blockKeywordRule.tokensAt? text offset = some tokens →
      ∃ word ∈ blockWords,
        keywordRule.tokensAt? text offset = some [.ofText .keyword word offset]) ∧
    ∀ text, (RuleTable.mk (earlier ++ later)).tokens text
        = (RuleTable.mk (earlier ++ blockKeywordRule :: later)).tokens text ∧
      HandsOut Stream.next (Stream.start ⟨earlier ++ later⟩ text)
        ((RuleTable.mk (earlier ++ blockKeywordRule :: later)).tokens text) := by
  refine ⟨[functionHeaderRule, keywordRule, builtinRule],
    [atomRule, numberRule, operatorRule, identifierRule], blockKeywordRule, keywordRule,
    setanta_eq, blockKeyword_eq, keyword_eq, ?_, ?_⟩
  · intro text offset tokens made
    obtain ⟨front, rest, -, rfl, rfl, -⟩ := Rule.tokensAt?_eq_some made
    rw [Rule.tokensAt?_size_append] at made
    obtain ⟨found, finds, -⟩ := Option.map_eq_some_iff.mp made
    obtain ⟨opens, taken⟩ := keywordRule_match?_of_block ⟨found, finds⟩
    refine ⟨_, opens, ?_⟩
    rw [Rule.tokensAt?_size_append, taken]
    rfl
  · intro text
    have shadowed : RuleTable.Shadows [functionHeaderRule, keywordRule, builtinRule]
        blockKeywordRule := fun offset text finds =>
      ⟨keywordRule, by simp, keywordRule_matches_of_block finds⟩
    have tokens := RuleTable.tokens_shadowed shadowed
      [atomRule, numberRule, operatorRule, identifierRule] text
    refine ⟨tokens, ?_⟩
    rw [← tokens]
    exact (Stream.start _ text).handsOut_tokensLeft

/-- By itself the rule does match where a word opens a block. -/
example : (blockKeywordRule.tokensAt? "má\x7b".toList 0).isSome = true := by
  decide +kernel

end Highlighter.Setanta
