import Highlighter.Proofs.Language.Order
import Highlighter.Proofs.Pattern.Shortened

/-!
# The span of a step alone

What a step covers is divided alike whether it stands in its text or alone.  At the
end of a text all words may end and no phrase can go on, so a rule that had to give
way could now match, and the rule that decided the step could take less.  Neither
happens: a header and a word end where nothing else could begin, and a number or a
run of operators is told by its own characters.
-/

set_option autoImplicit false

namespace Highlighter.Setanta

/-! ## Headers and words -/

theorem functionHeaderRule_take {offset : Nat} {text : List Char}
    (none : functionHeaderRule.match? offset text = .none) (count : Nat) :
    functionHeaderRule.match? offset (text.take count) = .none := by
  refine functionHeaderRule_eq_none (fun header tail front => ?_) offset
  have whole : text = header.text ++ (tail ++ text.drop count) := by
    rw [← List.append_assoc, ← front, List.take_append_drop]
  obtain ⟨longest, rest, same, last⟩ := header.exists_last (tail ++ text.drop count)
  rw [whole, same, functionHeaderRule_match? longest last] at none
  cases none

theorem pairAt?_run {run : List Char} (all : ∀ c ∈ run, isNameChar c = true) :
    pairAt? run = none := by
  have nothing : run.dropWhile isNameChar = [] := List.dropWhile_eq_nil_iff.mpr all
  unfold pairAt?
  simp [nothing]

/-- A word is the same word where it stands alone. -/
theorem wordAt_wordAt (text : List Char) : wordAt (wordAt text).2 = wordAt text := by
  have all : ∀ c ∈ text.takeWhile isNameChar, isNameChar c = true :=
    fun c member => List.mem_takeWhile_imp member
  have alone : (text.takeWhile isNameChar).takeWhile isNameChar = text.takeWhile isNameChar :=
    List.takeWhile_eq_self_iff.mpr all
  have noPair := pairAt?_run all
  by_cases control : text.takeWhile isNameChar ∈ controlWords
  · simp [wordAt, control, alone]
  · cases found : pairAt? text with
    | none =>
      by_cases output : text.takeWhile isNameChar ∈ outputWords
      · simp [wordAt, control, found, output, alone, noPair]
      · by_cases truth : text.takeWhile isNameChar ∈ truthWords
        · simp [wordAt, control, found, output, truth, alone, noPair]
        · simp [wordAt, control, found, output, truth, alone, noPair]
    | some pair =>
      obtain ⟨space, rest, -, rfl, nonempty, spaces⟩ := exists_of_pairAt? found
      have word := (takeWhile_whenWord nonempty spaces ['a']).1
      have again := pairAt?_append nonempty spaces []
      rw [List.takeWhile_nil, if_pos rfl] at again
      have noControl : whenWord ∉ controlWords := by decide
      simp [wordAt, control, found, word, again, noControl]

/-! ## Numbers and operators -/

theorem numberPhrases_isLocal : numberPhrases.IsLocal :=
  ((Phrases.IsLocal.words _).andThen ((Phrases.IsLocal.one _).andThen (.someRun _))).orElse
    ((Phrases.IsLocal.one _).optional.andThen
      ((((Phrases.IsLocal.words _).andThen (.someRun _)).orElse
        ((Phrases.IsLocal.someRun _).andThen
          ((Phrases.IsLocal.words _).optional.andThen (.run _)))).andThen
        (((Phrases.IsLocal.one _).andThen
          ((Phrases.IsLocal.one _).optional.andThen (.someRun _))).optional)))

theorem nil_notMem_numberPhrases (text : List Char) : [] ∉ numberPhrases text := by
  simp [numberPhrases, hexPhrases, fractionPhrases, Phrases.orElse, Phrases.mem_andThen,
    Phrases.mem_someRun]

section Marks

variable {offset : Nat} {c : Char} {rest : List Char} {rule : Rule}

/-- Where no word begins, only the rules for numbers and operators match. -/
theorem rule_of_mark (mark : isNameChar c = false) (among : rule ∈ table.rules)
    (finds : rule.Matches offset (c :: rest)) : rule = numberRule ∨ rule = operatorRule := by
  have run : (c :: rest).takeWhile isNameChar = [] := by simp [mark]
  have names : ∀ one ∈ runs, [] ∈ one.2 → one.1 = "number" ∨ one.1 = "operator" := by
    decide +kernel
  rcases exists_run among finds with rfl | ⟨words, asks, word⟩
  · exact absurd run (identifierRule_run finds)
  · rw [run] at word
    rcases names _ asks word with name | name
    · exact .inl (eq_of_name among (by simp [table]) name)
    · exact .inr (eq_of_name among (by simp [table]) name)

theorem match?_of_mark (mark : isNameChar c = false) (among : rule ∈ table.rules)
    (other : rule.name ≠ "number" ∧ rule.name ≠ "operator") :
    rule.match? offset (c :: rest) = none := by
  refine Option.eq_none_iff_forall_not_mem.mpr fun found finds => ?_
  rcases rule_of_mark mark among ⟨found, finds⟩ with rfl | rfl
  · exact other.1 rfl
  · exact other.2 rfl

end Marks

/-! ## Each step alone -/

/-- The step over what a step covers has the same tokens and the same length. -/
def StandsAlone (offset : Nat) (c : Char) (rest : List Char) : Prop :=
  ∃ later, (c :: rest).take (table.step offset c rest).length = c :: later ∧
    (table.step offset c later).tokens = (table.step offset c rest).tokens ∧
    (table.step offset c later).length = (table.step offset c rest).length

section Steps

variable {offset : Nat} {c : Char} {rest : List Char}

theorem exists_take_step (offset : Nat) (c : Char) (rest : List Char) :
    ∃ later, (c :: rest).take (table.step offset c rest).length = c :: later := by
  obtain ⟨positive, -⟩ := table.step_length offset c rest
  obtain ⟨count, total⟩ := Nat.exists_eq_succ_of_ne_zero (Nat.ne_of_gt positive)
  exact ⟨rest.take count, by rw [total, Nat.succ_eq_add_one, List.take_succ_cons]⟩

theorem standsAlone_header {header : Header} (heads : header.Heads (c :: rest)) :
    StandsAlone offset c rest := by
  have own := step_header heads offset
  obtain ⟨later, front⟩ := exists_take_step offset c rest
  have alone : header.Heads (c :: later) := by
    obtain ⟨tail, whole, -⟩ := heads
    refine ⟨[], ?_, by simp⟩
    rw [← front, own, whole, List.append_nil]
    exact List.take_left
  refine ⟨later, front, ?_, ?_⟩
  · rw [step_header alone, own]
  · rw [step_header alone, own]

theorem standsAlone_word (inName : isNameChar c = true)
    (noHeader : functionHeaderRule.match? offset (c :: rest) = none) :
    StandsAlone offset c rest := by
  obtain ⟨tokens, length⟩ := step_word inName noHeader
  obtain ⟨later, front⟩ := exists_take_step offset c rest
  -- The word is all that the step covers.
  have spelled : c :: later = (wordAt (c :: rest)).2 := by
    have joined := (table.step_tiles offset c rest).joined
    rw [tokens, front] at joined
    simpa [Token.ofText] using joined.symm
  have stillNone := functionHeaderRule_take noHeader (table.step offset c rest).length
  rw [front] at stillNone
  obtain ⟨again, sameLength⟩ := step_word inName stillNone
  refine ⟨later, front, ?_, ?_⟩
  · rw [again, tokens, spelled, wordAt_wordAt]
  · rw [sameLength, length, spelled, wordAt_wordAt]

variable (offset rest) in
/-- Where no word begins, a number is taken, or else operators, or else one character. -/
theorem step_mark (mark : isNameChar c = false) : table.step offset c rest =
    match numberRule.match? offset (c :: rest), operatorRule.match? offset (c :: rest) with
    | some found, _ => ⟨offset, .matched "number", found.length, found.tokens⟩
    | none, some found => ⟨offset, .matched "operator", found.length, found.tokens⟩
    | none, none => ⟨offset, .unmatched c, 1, [.ofText .plain [c] offset]⟩ := by
  have words : ∀ other ∈ table.rules.take 5, other.name ≠ "number" ∧ other.name ≠ "operator" := by
    decide
  have earlier : ∀ other ∈ table.rules.take 5, other.match? offset (c :: rest) = none :=
    fun other among => match?_of_mark mark (List.mem_of_mem_take among) (words other among)
  cases number : numberRule.match? offset (c :: rest) with
  | some found => exact table.step_of_match? (table.rules.take 5) rfl earlier number
  | none =>
    cases operator : operatorRule.match? offset (c :: rest) with
    | some found =>
      refine table.step_of_match? (table.rules.take 5 ++ [numberRule]) rfl ?_ operator
      intro other among
      rcases List.mem_append.mp among with word | last
      · exact earlier other word
      · rw [List.mem_singleton.mp last]
        exact number
    | none =>
      rcases table.step_cases offset c rest with ⟨rule, among, found, finds, -⟩ | ⟨-, same⟩
      · rcases rule_of_mark mark among ⟨found, finds⟩ with rfl | rfl
        · rw [number] at finds
          cases finds
        · rw [operator] at finds
          cases finds
      · exact same

theorem standsAlone_mark (mark : isNameChar c = false) : StandsAlone offset c rest := by
  obtain ⟨later, front⟩ := exists_take_step offset c rest
  refine ⟨later, front, ?_⟩
  have own := step_mark offset rest mark
  have alone := step_mark offset later mark
  rw [← front] at alone
  -- A rule that finds nothing in the text finds nothing in the span.
  have numberLost : numberRule.match? offset (c :: rest) = none → numberRule.match? offset
      ((c :: rest).take (table.step offset c rest).length) = none :=
    Rule.match?_take_eq_none numberTree_simple numberTree_reads numberPhrases_isLocal rfl rfl rfl
      (nil_notMem_numberPhrases (c :: rest)) _
  have operatorLost : operatorRule.match? offset (c :: rest) = none → operatorRule.match? offset
      ((c :: rest).take (table.step offset c rest).length) = none :=
    Rule.match?_take_eq_none (.loop true true operatorSet) (.someRun operatorSet)
      (.someRun operatorSet.contains) rfl rfl rfl
      (fun empty => (Phrases.mem_someRun.mp empty).1 rfl) _
  cases number : numberRule.match? offset (c :: rest) with
  | some found =>
    have kept := Rule.match?_take numberTree_simple numberTree_reads numberPhrases_isLocal rfl rfl
      number
    rw [number] at own
    rw [own] at alone ⊢
    rw [kept] at alone
    rw [alone]
    exact ⟨rfl, rfl⟩
  | none =>
    rw [number] at own
    rw [numberLost number] at alone
    cases operator : operatorRule.match? offset (c :: rest) with
    | some found =>
      have kept := Rule.match?_take (.loop true true operatorSet) (.someRun operatorSet)
        (.someRun operatorSet.contains) rfl rfl operator
      rw [operator] at own
      rw [own] at alone ⊢
      rw [kept] at alone
      rw [alone]
      exact ⟨rfl, rfl⟩
    | none =>
      rw [operator] at own
      rw [operatorLost operator] at alone
      rw [alone, own]
      exact ⟨rfl, rfl⟩

/-- Every step stands alone. -/
theorem standsAlone (offset : Nat) (c : Char) (rest : List Char) : StandsAlone offset c rest := by
  by_cases inName : isNameChar c = true
  · cases header : functionHeaderRule.match? offset (c :: rest) with
    | none => exact standsAlone_word inName header
    | some found =>
      obtain ⟨header, heads⟩ := exists_heads_of_match? header
      exact standsAlone_header heads
  · exact standsAlone_mark (eq_false_of_ne_true inName)

end Steps

/-! ## Spans divided alone -/

theorem stepsFrom_alone (offset : Nat) (c : Char) (rest : List Char) :
    (table.stepsFrom offset ((c :: rest).take (table.step offset c rest).length)).flatMap
      (·.tokens) = (table.step offset c rest).tokens := by
  obtain ⟨later, front, tokens, length⟩ := standsAlone offset c rest
  have whole : (c :: later).drop (table.step offset c rest).length = [] := by
    rw [← front]
    exact List.drop_eq_nil_of_le (List.length_take_le _ _)
  rw [front, RuleTable.stepsFrom_cons, length, whole, RuleTable.stepsFrom_nil,
    List.flatMap_singleton, tokens]

/-- A step that is not over a header makes one token. -/
theorem exists_token_of_step {offset : Nat} {c : Char} {rest : List Char}
    (decision : (table.step offset c rest).decision ≠ .matched "function_header") :
    ∃ token, (table.step offset c rest).tokens = [token] := by
  by_cases inName : isNameChar c = true
  · exact ⟨_, (step_word inName (no_header_of_decision decision)).1⟩
  · have whole : ∀ rule : Rule, ∀ cls found, rule.labelling = .whole cls →
        rule.match? offset (c :: rest) = some found → ∃ token, found.tokens = [token] := by
      intro rule cls found labelling finds
      obtain ⟨matched, -, -, -, rfl⟩ := Rule.match?_eq_some finds
      rw [labelling]
      exact ⟨_, rfl⟩
    rw [step_mark offset rest (eq_false_of_ne_true inName)]
    cases number : numberRule.match? offset (c :: rest) with
    | some found => exact whole numberRule .number found rfl number
    | none =>
      cases operator : operatorRule.match? offset (c :: rest) with
      | some found => exact whole operatorRule .operator found rfl operator
      | none => exact ⟨_, rfl⟩

/-- Outside headers the text of a token tells its class. -/
theorem classes_alone {text : List Char} {step : Step} (member : step ∈ table.steps text)
    (decision : step.decision ≠ .matched "function_header") {token : Token}
    (own : token ∈ step.tokens) : (table.tokens token.text).map (·.cls) = [token.cls] := by
  obtain ⟨before, c, rest, rfl, rfl⟩ := RuleTable.mem_steps member
  obtain ⟨only, tokens⟩ := exists_token_of_step decision
  have alone := stepsFrom_alone (Utf8.size before) c rest
  have joined := (table.step_tiles (Utf8.size before) c rest).joined
  rw [tokens] at own alone joined
  rw [List.mem_singleton.mp own]
  rw [← joined, List.flatMap_singleton, RuleTable.stepsFrom_tokens] at alone
  have classes := congrArg (List.map (·.cls)) alone
  rwa [List.map_map] at classes

/-- What a step covers is divided by itself as it is in its text.  So outside headers two tokens of
the same text have the same class, whatever stands around them. -/
theorem spans_alone : ∃ table, RuleTable.setanta = .ok table ∧
    (∀ text, ∀ step ∈ table.steps text, ∃ span tokens,
      Utf8.slice? text step.offset step.stop = some span ∧ span.length = step.length ∧
      HandsOut Stream.next (Stream.start table span) tokens ∧
      tokens.map (·.shift step.offset) = step.tokens) ∧
    ∀ text other, ∀ step ∈ table.steps text, ∀ otherStep ∈ table.steps other,
      step.decision ≠ .matched "function_header" →
      otherStep.decision ≠ .matched "function_header" →
      ∀ token ∈ step.tokens, ∀ twin ∈ otherStep.tokens,
        token.text = twin.text → token.cls = twin.cls := by
  refine ⟨table, setanta_eq, ?_, ?_⟩
  · intro text step member
    obtain ⟨before, c, rest, rfl, rfl⟩ := RuleTable.mem_steps member
    obtain ⟨-, bounded⟩ := table.step_length (Utf8.size before) c rest
    refine ⟨(c :: rest).take (table.step (Utf8.size before) c rest).length, _, ?_, ?_,
      (Stream.start table _).handsOut_tokensLeft, ?_⟩
    · have slice := Utf8.slice?_size_append before
        ((c :: rest).take (table.step (Utf8.size before) c rest).length)
        ((c :: rest).drop (table.step (Utf8.size before) c rest).length)
      rw [List.take_append_drop, ← RuleTable.step_stop] at slice
      rw [RuleTable.step_offset]
      exact slice
    · rw [List.length_take, Nat.min_eq_left bounded]
    · rw [RuleTable.step_offset, ← stepsFrom_alone (Utf8.size before) c rest,
        RuleTable.stepsFrom_tokens]
      rfl
  · intro text other step member otherStep otherMember decision otherDecision token own twin
      otherOwn same
    have classes := classes_alone member decision own
    rw [same, classes_alone otherMember otherDecision otherOwn] at classes
    exact (List.singleton_inj.mp classes).symm

/-- In a header a name has a class of its own. -/
example : (table.tokens "gniomh f()".toList).map (·.cls)
    = [.definition, .plain, .functionName, .plain, .plain] ∧
      (table.tokens "f".toList).map (·.cls) = [.identifier] := by
  decide +kernel

end Highlighter.Setanta
