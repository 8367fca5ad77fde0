import Highlighter.Proofs.Language.Numerals
import Highlighter.Proofs.Language.Spans

/-!
# The forms of a step

A step takes a header, a word, a number, a run of operators or one other character.
What each of these is does not mention the rules, so that properties of the tokens of
a text can be proved by an induction on the steps with one case for each form.
-/

set_option autoImplicit false

namespace Highlighter.Setanta

/-- The characters of operators. -/
def isOperator (c : Char) : Bool :=
  ['-', '+', '/', '*', '=', '<', '>', '!'].contains c

theorem operatorSet_contains (c : Char) : operatorSet.contains c = isOperator c := by
  rw [Bool.eq_iff_iff]
  simp [operatorSet, CodeRanges.contains, isOperator, ← Char.toNat_inj]
  omega

theorem not_isOperator_of_isNameChar {c : Char} (inName : isNameChar c = true) :
    isOperator c = false := by
  rw [← operatorSet_contains]
  exact (not_contains_of_isNameChar inName).2.2.1

theorem not_isOperator_of_isLineSpace {c : Char} (space : isLineSpace c = true) :
    isOperator c = false := by
  rw [← spaceSet_contains] at space
  rw [← operatorSet_contains]
  simp [spaceSet, CodeRanges.contains] at space
  simp [operatorSet, CodeRanges.contains]
  omega

theorem not_isOperator_of_isHexDigit {c : Char} (digit : isHexDigit c = true) :
    isOperator c = false := by
  rw [← hexDigitSet_contains] at digit
  rw [← operatorSet_contains]
  simp [hexDigitSet, CodeRanges.contains] at digit
  simp [operatorSet, CodeRanges.contains]
  omega

theorem not_isOperator_of_isDigit {c : Char} (digit : c.isDigit = true) :
    isOperator c = false :=
  not_isOperator_of_isHexDigit (by simp [isHexDigit, digit])

theorem operatorRule_match? (offset : Nat) (text : List Char) :
    operatorRule.match? offset text =
      if text.takeWhile isOperator = [] then none
      else some ⟨(text.takeWhile isOperator).length,
        [.ofText .operator (text.takeWhile isOperator) offset]⟩ :=
  Rule.match?_someRun (.loop true true operatorSet) (.someRun_of operatorSet_contains) rfl rfl rfl
    offset text

theorem numberRule_match?_eq_none_iff {offset : Nat} {text : List Char} :
    numberRule.match? offset text = none ↔ ∀ numeral, numeral <+: text → ¬IsNumeral numeral := by
  constructor
  · intro none numeral front isNumeral
    obtain ⟨longest, isLongest⟩ :=
      numberPhrases_greedy.exists_isLongest numberPhrases_spell isNumeral front
    rw [numberRule_match?_iff.mpr ⟨longest, isLongest, rfl⟩] at none
    cases none
  · intro none
    refine Option.eq_none_iff_forall_not_mem.mpr fun found finds => ?_
    obtain ⟨numeral, longest, -⟩ := numberRule_match?_iff.mp finds
    exact none numeral longest.front longest.mem

/-- What a step at `offset` takes from the text that it leaves, and the tokens that it makes. -/
inductive Form (offset : Nat) : List Char → List Char → List Token → Prop where
  | header {header : Header} {later : List Char} (last : ')' ∉ later.takeWhile (· ≠ '\n')) :
      Form offset header.text later (header.tokens offset)
  | word {cls : TokenClass} {word later : List Char}
      (inName : ∀ c ∈ (word ++ later).head?, isNameChar c = true)
      (isWord : wordAt (word ++ later) = (cls, word)) :
      Form offset word later [.ofText cls word offset]
  | number {numeral later : List Char} (longest : IsLongest IsNumeral (numeral ++ later) numeral) :
      Form offset numeral later [.ofText .number numeral offset]
  | operator {run later : List Char} (nonempty : run ≠ []) (all : ∀ c ∈ run, isOperator c = true)
      (ends : ∀ c ∈ later.head?, isOperator c = false) :
      Form offset run later [.ofText .operator run offset]
  | other {c : Char} {later : List Char} (noName : isNameChar c = false)
      (noOperator : isOperator c = false)
      (noNumeral : ∀ numeral, numeral <+: c :: later → ¬IsNumeral numeral) :
      Form offset [c] later [.ofText .plain [c] offset]

section Steps

variable {offset : Nat} {c : Char} {rest : List Char}

theorem step_word_form (inName : isNameChar c = true)
    (noHeader : functionHeaderRule.match? offset (c :: rest) = none) :
    Form offset ((c :: rest).take (table.step offset c rest).length)
      ((c :: rest).drop (table.step offset c rest).length) (table.step offset c rest).tokens := by
  have joined := (table.step_tiles offset c rest).joined
  rw [(step_word inName noHeader).1] at joined ⊢
  have spelled : (c :: rest).take (table.step offset c rest).length = (wordAt (c :: rest)).2 := by
    simpa [Token.ofText] using joined.symm
  have whole := List.take_append_drop (table.step offset c rest).length (c :: rest)
  rw [spelled] at whole ⊢
  refine .word ?_ ?_
  · rw [whole]
    rintro _ ⟨⟩
    exact inName
  · rw [whole]

theorem step_mark_form (mark : isNameChar c = false) :
    Form offset ((c :: rest).take (table.step offset c rest).length)
      ((c :: rest).drop (table.step offset c rest).length) (table.step offset c rest).tokens := by
  rw [step_mark offset rest mark]
  cases number : numberRule.match? offset (c :: rest) with
  | some found =>
    obtain ⟨numeral, longest, rfl⟩ := numberRule_match?_iff.mp number
    obtain ⟨later, whole⟩ := longest.front
    rw [← whole] at longest ⊢
    rw [List.take_left, List.drop_left]
    exact .number longest
  | none =>
    have operator := operatorRule_match? offset (c :: rest)
    by_cases run : (c :: rest).takeWhile isOperator = []
    · rw [if_pos run] at operator
      rw [operator]
      refine .other mark ?_ (numberRule_match?_eq_none_iff.mp number)
      by_contra other
      simp [other] at run
    · rw [if_neg run] at operator
      rw [operator]
      have whole := (List.takeWhile_append_dropWhile (p := isOperator) (l := c :: rest)).symm
      have all : ∀ d ∈ (c :: rest).takeWhile isOperator, isOperator d = true :=
        fun d member => List.mem_takeWhile_imp member
      have ends : ∀ d ∈ ((c :: rest).dropWhile isOperator).head?, isOperator d = false := by
        intro d first
        have stopped := List.head?_dropWhile_not isOperator (c :: rest)
        rw [Option.mem_def.mp first] at stopped
        exact stopped
      generalize (c :: rest).takeWhile isOperator = taken at *
      dsimp only
      rw [whole, List.take_left, List.drop_left]
      exact .operator run all ends

/-- Every step has one of the forms. -/
theorem step_form (offset : Nat) (c : Char) (rest : List Char) :
    Form offset ((c :: rest).take (table.step offset c rest).length)
      ((c :: rest).drop (table.step offset c rest).length) (table.step offset c rest).tokens := by
  by_cases inName : isNameChar c = true
  · cases found : functionHeaderRule.match? offset (c :: rest) with
    | none => exact step_word_form inName found
    | some found =>
      obtain ⟨header, heads⟩ := exists_heads_of_match? found
      rw [step_header heads]
      obtain ⟨later, whole, last⟩ := heads
      rw [whole, List.take_left, List.drop_left]
      exact .header last
  · exact step_mark_form (eq_false_of_ne_true inName)

end Steps

/-- What holds at the end of a text, and before a step of any form if it holds behind it, holds of
every text and its tokens. -/
theorem tokens_induction {motive : Nat → List Char → List Token → Prop}
    (done : ∀ offset, motive offset [] [])
    (next : ∀ offset taken later tokens others, Form offset taken later tokens →
      motive (offset + Utf8.size taken) later others →
      motive offset (taken ++ later) (tokens ++ others))
    (text : List Char) : motive 0 text (table.tokens text) := by
  refine table.steps_induction (motive := fun offset text =>
    motive offset text ((table.stepsFrom offset text).flatMap (·.tokens))) ?_ ?_ 0 text
  · intro offset
    rw [RuleTable.stepsFrom_nil]
    exact done offset
  · intro offset c rest later
    have whole := next offset _ _ _ _ (step_form offset c rest) later
    rwa [List.take_append_drop, ← List.flatMap_cons, ← RuleTable.stepsFrom_cons] at whole

/-! ## The step that makes a token -/

/-- A step of some form takes `taken` from the middle of a text and makes `own` among the tokens of
the text. -/
structure FormIn (offset : Nat) (text : List Char) (tokens : List Token)
    (before taken later : List Char) (own : List Token) : Prop where
  split : text = before ++ (taken ++ later)
  form : Form (offset + Utf8.size before) taken later own
  among : own <:+: tokens

/-- What a step takes behind another one is in the text of both. -/
theorem FormIn.behind {offset : Nat} {first text : List Char} {tokens others : List Token}
    {before taken later : List Char} {own : List Token}
    (formIn : FormIn (offset + Utf8.size first) text others before taken later own) :
    FormIn offset (first ++ text) (tokens ++ others) (first ++ before) taken later own where
  split := by rw [formIn.split, List.append_assoc]
  form := by
    rw [Utf8.size_append, ← Nat.add_assoc]
    exact formIn.form
  among := formIn.among.trans (List.suffix_append tokens others).isInfix

/-- Each token is made by a step, and if anything stands before the step, another step ends
there. -/
theorem exists_form (text : List Char) : ∀ token ∈ table.tokens text,
    ∃ before taken later own, FormIn 0 text (table.tokens text) before taken later own ∧
      token ∈ own ∧ ∀ c ∈ before.getLast?, ∃ front last others,
        FormIn 0 text (table.tokens text) front last (taken ++ later) others ∧
          c ∈ last.getLast? := by
  refine tokens_induction (motive := fun offset text tokens => ∀ token ∈ tokens,
    ∃ before taken later own, FormIn offset text tokens before taken later own ∧
      token ∈ own ∧ ∀ c ∈ before.getLast?, ∃ front last others,
        FormIn offset text tokens front last (taken ++ later) others ∧
          c ∈ last.getLast?) ?_ ?_ text
  · exact fun offset token member => nomatch member
  · intro offset taken later tokens others form inductionHypothesis token member
    have here : FormIn offset (taken ++ later) (tokens ++ others) [] taken later tokens :=
      ⟨rfl, form, (List.prefix_append tokens others).isInfix⟩
    rcases List.mem_append.mp member with own | other
    · exact ⟨[], taken, later, tokens, here, own, fun _ none => nomatch none⟩
    · obtain ⟨before, next, after, made, formIn, own, earlier⟩ := inductionHypothesis token other
      refine ⟨taken ++ before, next, after, made, formIn.behind, own, fun c ends => ?_⟩
      cases before with
      | nil =>
        -- The step that makes the token is the one behind this step.
        obtain rfl : later = next ++ after := formIn.split
        rw [List.append_nil] at ends
        exact ⟨[], taken, tokens, here, ends⟩
      | cons d before =>
        rw [List.getLast?_append_of_ne_nil _ (List.cons_ne_nil d before)] at ends
        obtain ⟨front, last, made, lastIn, closing⟩ := earlier c ends
        exact ⟨taken ++ front, last, made, lastIn.behind, closing⟩

end Highlighter.Setanta
