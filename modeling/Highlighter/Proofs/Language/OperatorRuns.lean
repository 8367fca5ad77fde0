import Highlighter.Proofs.Language.Forms

/-!
# Runs of operators

Operators that stand in a row make one token.  Only a parameter list can hold them
otherwise, and a number its sign or the sign of its exponent.  Scanning comes to the
first character of each run, because no step ends in the middle of one.
-/

set_option autoImplicit false

namespace Highlighter.Setanta

/-- A run of operators that goes on neither to the left nor to the right. -/
structure IsOperatorRun (before run after : List Char) : Prop where
  nonempty : run ≠ []
  all : ∀ c ∈ run, isOperator c = true
  left : ∀ c ∈ before.getLast?, isOperator c = false
  right : ∀ c ∈ after.head?, isOperator c = false

/-- Where in a number a sign stands, told by the text before it and behind it. -/
inductive SignPlace : List Char → List Char → Prop where
  | whole {digit : Char} {rest : List Char} (isDigit : digit.isDigit = true) :
      SignPlace [] (digit :: rest)
  | fraction {digit : Char} {rest : List Char} (isDigit : digit.isDigit = true) :
      SignPlace [] ('.' :: digit :: rest)
  | exponent {sign mantissa digits : List Char} {mark : Char} (isSign : sign ∈ signs)
      (isMantissa : IsMantissa mantissa) (isMark : mark = 'e' ∨ mark = 'E')
      (isDigits : IsDigits digits) : SignPlace (sign ++ (mantissa ++ [mark])) digits

/-- The ways in which tokens can take a run of operators. -/
inductive RunPlace where
  | token
  | parameters
  | sign

namespace RunPlace

/-- The tokens take the run that stands at byte `start` in this way. -/
def Holds (tokens : List Token) (start : Nat) (run : List Char) : RunPlace → Prop
  | token => .ofText .operator run start ∈ tokens
  | parameters => ∃ token ∈ tokens, token.cls = .parameterList ∧ token.start ≤ start ∧
      start + Utf8.size run ≤ token.stop
  | sign => ∃ token ∈ tokens, token.cls = .number ∧ ∃ front sign back, run = [sign] ∧
      (sign = '+' ∨ sign = '-') ∧ token.text = front ++ sign :: back ∧
      start = token.start + Utf8.size front ∧ SignPlace front back

def cls : RunPlace → TokenClass
  | token => .operator
  | parameters => .parameterList
  | sign => .number

theorem Holds.mono {place : RunPlace} {tokens others : List Token} {start : Nat}
    {run : List Char} (subset : tokens ⊆ others) (holds : place.Holds tokens start run) :
    place.Holds others start run := by
  cases place with
  | token => exact subset holds
  | parameters =>
    obtain ⟨token, member, inside⟩ := holds
    exact ⟨token, subset member, inside⟩
  | sign =>
    obtain ⟨token, member, inside⟩ := holds
    exact ⟨token, subset member, inside⟩

/-- The token over the first byte of a run tells how the run is taken. -/
theorem Holds.exists_token {place : RunPlace} {offset : Nat} {text run : List Char}
    {tokens : List Token} {start : Nat} (tiles : Tiles offset text tokens) (nonempty : run ≠ [])
    (holds : place.Holds tokens start run) : ∃ token ∈ tokens, token.cls = place.cls ∧
      token.start ≤ start ∧ start < token.stop := by
  have positive := Utf8.size_pos nonempty
  cases place with
  | token => exact ⟨_, holds, rfl, Nat.le_refl _, Nat.lt_add_of_pos_right positive⟩
  | parameters =>
    obtain ⟨token, member, cls, starts, stops⟩ := holds
    exact ⟨token, member, cls, starts, by omega⟩
  | sign =>
    obtain ⟨token, member, cls, front, sign, back, rfl, -, split, rfl, -⟩ := holds
    have stop := tiles.stop_eq member
    have longer : Utf8.size token.text = Utf8.size front + Utf8.size (sign :: back) := by
      rw [split, Utf8.size_append]
    have own := Utf8.size_pos (List.cons_ne_nil sign back)
    exact ⟨token, member, cls, Nat.le_add_right _ _, by omega⟩

theorem Holds.unique {place other : RunPlace} {offset : Nat} {text run : List Char}
    {tokens : List Token} {start : Nat} (tiles : Tiles offset text tokens) (nonempty : run ≠ [])
    (holds : place.Holds tokens start run) (otherHolds : other.Holds tokens start run) :
    place = other := by
  obtain ⟨token, member, cls, starts, stops⟩ := holds.exists_token tiles nonempty
  obtain ⟨twin, twinMember, twinCls, twinStarts, twinStops⟩ :=
    otherHolds.exists_token tiles nonempty
  have same := tiles.eq_of_over token member twin twinMember starts stops twinStarts twinStops
  have classes : place.cls = other.cls := by
    rw [← cls, same, twinCls]
  cases place <;> cases other <;> first | rfl | cases classes

end RunPlace

/-! ## Signs in numbers -/

section Signs

variable {c : Char} {front back mantissa exponent : List Char}

theorem eq_nil_or_singleton_of_mem_signs {sign : List Char} (isSign : sign ∈ signs) :
    sign = [] ∨ ∃ d, (d = '+' ∨ d = '-') ∧ sign = [d] := by
  simp only [signs, List.mem_cons, List.not_mem_nil, or_false] at isSign
  rcases isSign with rfl | rfl | rfl
  · exact .inl rfl
  · exact .inr ⟨_, .inl rfl, rfl⟩
  · exact .inr ⟨_, .inr rfl, rfl⟩

theorem IsMantissa.not_isOperator (isMantissa : IsMantissa mantissa) :
    ∀ c ∈ mantissa, isOperator c = false := by
  intro c member
  rcases isMantissa.isDigit_or_point c member with digit | rfl
  · exact not_isOperator_of_isDigit digit
  · rfl

/-- Only the sign of its exponent is an operator in a number without sign. -/
theorem exists_of_mantissa_exponent (isMantissa : IsMantissa mantissa)
    (isExponent : exponent = [] ∨ IsExponent exponent)
    (whole : mantissa ++ exponent = front ++ c :: back) (operator : isOperator c = true) :
    (c = '+' ∨ c = '-') ∧ ∃ mark, (mark = 'e' ∨ mark = 'E') ∧ front = mantissa ++ [mark] ∧
      IsDigits back := by
  have outside : ∀ {segment : List Char}, (∀ d ∈ segment, isOperator d = false) → c ∉ segment := by
    intro segment none member
    rw [none c member] at operator
    cases operator
  obtain ⟨middle, rfl, tail⟩ := exists_of_notMem_first whole (outside isMantissa.not_isOperator)
  rcases isExponent with rfl | @⟨mark, sign, digits, isMark, isSign, isDigits⟩
  · simp at tail
  · have markOutside : c ∉ [mark] := by
      refine outside fun d member => ?_
      rw [List.mem_singleton.mp member]
      rcases isMark with rfl | rfl <;> rfl
    have digitsOutside : c ∉ digits :=
      outside fun d member => not_isOperator_of_isDigit (isDigits.2 d member)
    rw [← List.singleton_append] at tail
    obtain ⟨later, rfl, signed⟩ := exists_of_notMem_first tail markOutside
    obtain ⟨rest, split, rfl⟩ := exists_of_notMem_second signed digitsOutside
    rcases eq_nil_or_singleton_of_mem_signs isSign with rfl | ⟨d, isPlus, rfl⟩
    · simp at split
    · rcases List.append_eq_singleton_iff.mp split.symm with ⟨rfl, own⟩ | ⟨-, nothing⟩
      · obtain ⟨rfl, rfl⟩ := List.cons.inj own
        exact ⟨isPlus, mark, isMark, by simp, isDigits⟩
      · cases nothing

theorem IsMantissa.signPlace (isMantissa : IsMantissa mantissa) (exponent : List Char) :
    SignPlace [] (mantissa ++ exponent) := by
  have digits : ∀ {digits : List Char}, IsDigits digits → ∃ digit rest, digits = digit :: rest ∧
      digit.isDigit = true := by
    rintro digits ⟨nonempty, all⟩
    obtain ⟨digit, rest, rfl⟩ := List.exists_cons_of_ne_nil nonempty
    exact ⟨digit, rest, rfl, all digit List.mem_cons_self⟩
  cases isMantissa with
  | whole isDigits =>
    obtain ⟨digit, rest, rfl, isDigit⟩ := digits isDigits
    exact .whole isDigit
  | pointed isDigits _ =>
    obtain ⟨digit, rest, rfl, isDigit⟩ := digits isDigits
    exact .whole isDigit
  | fraction isDigits =>
    obtain ⟨digit, rest, rfl, isDigit⟩ := digits isDigits
    exact .fraction isDigit

/-- An operator in a number is its sign or the sign of its exponent. -/
theorem IsNumeral.signPlace {numeral : List Char} (isNumeral : IsNumeral numeral)
    (whole : numeral = front ++ c :: back) (operator : isOperator c = true) :
    (c = '+' ∨ c = '-') ∧ SignPlace front back := by
  cases isNumeral with
  | @hex mark digits isMark nonempty isDigits =>
    have none : ∀ d ∈ '0' :: mark :: digits, isOperator d = false := by
      intro d member
      simp only [List.mem_cons] at member
      rcases member with rfl | rfl | digit
      · rfl
      · rcases isMark with rfl | rfl <;> rfl
      · exact not_isOperator_of_isHexDigit (isDigits d digit)
    rw [none c (whole ▸ by simp)] at operator
    cases operator
  | @decimal sign mantissa exponent isSign isMantissa isExponent =>
    have unsigned : ∀ {front}, mantissa ++ exponent = front ++ c :: back →
        (c = '+' ∨ c = '-') ∧ SignPlace (sign ++ front) back := by
      intro front whole
      obtain ⟨isPlus, mark, isMark, rfl, isDigits⟩ :=
        exists_of_mantissa_exponent isMantissa isExponent whole operator
      exact ⟨isPlus, .exponent isSign isMantissa isMark isDigits⟩
    rcases eq_nil_or_singleton_of_mem_signs isSign with rfl | ⟨d, isPlus, rfl⟩
    · exact unsigned whole
    · rcases List.append_eq_cons_iff.mp whole.symm with ⟨rfl, own⟩ | ⟨later, rfl, rest⟩
      · obtain ⟨rfl, rfl⟩ := List.cons.inj own
        exact ⟨isPlus, isMantissa.signPlace exponent⟩
      · exact unsigned rest

theorem SignPlace.head (place : SignPlace front back) :
    ∃ d rest, back = d :: rest ∧ isOperator d = false := by
  cases place with
  | whole isDigit => exact ⟨_, _, rfl, not_isOperator_of_isDigit isDigit⟩
  | fraction _ => exact ⟨_, _, rfl, rfl⟩
  | exponent _ _ _ isDigits =>
    obtain ⟨d, rest, rfl⟩ := List.exists_cons_of_ne_nil isDigits.1
    exact ⟨d, rest, rfl, not_isOperator_of_isDigit (isDigits.2 d List.mem_cons_self)⟩

end Signs

/-! ## Steps and runs -/

section Steps

variable {offset : Nat} {taken later before others run after : List Char} {tokens : List Token}
  {c : Char}

theorem Header.not_isOperator_of_mem_opening (header : Header) :
    ∀ c ∈ header.opening, isOperator c = false := by
  have words : ∀ word ∈ functionWords, ∀ c ∈ word, isOperator c = false := by
    simp [functionWords, isOperator]
  intro c member
  simp only [opening, List.mem_append, List.mem_singleton] at member
  rcases member with ((word | space) | name) | rfl
  · exact words _ header.word_mem c word
  · exact not_isOperator_of_isLineSpace (header.isLineSpace_of_mem c space)
  · exact not_isOperator_of_isNameChar (isNameChar_of_isLetter (header.isLetter_of_mem c name))
  · rfl

theorem Header.exists_place (header : Header) (own : header.text = before ++ c :: others)
    (isRun : IsOperatorRun before (c :: run) after) (whole : run ++ after = others ++ later)
    (offset : Nat) :
    RunPlace.parameters.Holds (header.tokens offset) (offset + Utf8.size before) (c :: run) := by
  have absent : ∀ {segment : List Char}, (∀ d ∈ segment, isOperator d = false) →
      ∀ d ∈ c :: run, d ∉ segment := by
    intro segment none d operator member
    have yes := isRun.all d operator
    rw [none d member] at yes
    cases yes
  have closing : ∀ d ∈ c :: run, d ∉ [')'] := absent (List.forall_mem_singleton.mpr rfl)
  obtain ⟨middle, opened, rfl⟩ : ∃ middle,
      header.opening ++ header.parameters = before ++ c :: middle ∧ _ = middle ++ [')'] :=
    exists_of_notMem_second own (closing c List.mem_cons_self)
  obtain ⟨front, rfl, parameters⟩ := exists_of_notMem_first opened
    (absent header.not_isOperator_of_mem_opening c List.mem_cons_self)
  rw [List.append_assoc, List.singleton_append] at whole
  obtain ⟨back, rfl, -⟩ := exists_of_notMem_first whole fun member =>
    closing ')' (List.mem_cons_of_mem _ member) (List.mem_singleton_self _)
  refine ⟨_, header.parameterList_mem_tokens ?_ offset, rfl, ?_, ?_⟩
  · rw [parameters]
    exact List.append_ne_nil_of_right_ne_nil _ (List.cons_ne_nil _ _)
  · rw [Utf8.size_append, ← Nat.add_assoc]
    exact Nat.le_add_right _ _
  · have inside : Utf8.size header.parameters
        = Utf8.size front + (Utf8.size (c :: run) + Utf8.size back) := by
      rw [parameters, ← List.cons_append, Utf8.size_append, Utf8.size_append]
    simp only [Token.ofText, Utf8.size_append, inside]
    omega

/-- A run that begins in what a step takes lies in it, and there it has its place. -/
theorem Form.exists_place (form : Form offset taken later tokens)
    (own : taken = before ++ c :: others) (isRun : IsOperatorRun before (c :: run) after)
    (whole : run ++ after = others ++ later) :
    ∃ place : RunPlace, place.Holds tokens (offset + Utf8.size before) (c :: run) := by
  have operator := isRun.all c List.mem_cons_self
  cases form with
  | @header header later last => exact ⟨.parameters, header.exists_place own isRun whole offset⟩
  | word inName isWord =>
    have chars := wordAt_chars (taken ++ later)
    rw [isWord] at chars
    rcases chars c (own ▸ List.mem_append_right _ List.mem_cons_self) with name | space
    · rw [not_isOperator_of_isNameChar name] at operator
      cases operator
    · rw [not_isOperator_of_isLineSpace space] at operator
      cases operator
  | number longest =>
    obtain ⟨isPlus, place⟩ := longest.mem.signPlace own operator
    obtain ⟨d, rest, rfl, other⟩ := place.head
    have alone : run = [] := by
      cases run with
      | nil => rfl
      | cons e run =>
        rw [List.cons_append, List.cons_append] at whole
        have same := (List.cons.inj whole).1
        have yes := isRun.all e (List.mem_cons_of_mem _ List.mem_cons_self)
        rw [same, other] at yes
        cases yes
    subst alone
    exact ⟨.sign, _, List.mem_singleton_self _, rfl, before, c, _, rfl, isPlus, own, rfl, place⟩
  | operator nonempty all ends =>
    -- Before the run there is no operator, so that the step begins with it.
    have first : before = [] := by
      cases last : before.getLast? with
      | none => exact List.getLast?_eq_none_iff.mp last
      | some d =>
        have other := isRun.left d last
        rw [all d (own ▸ List.mem_append_left _ (List.mem_of_getLast? last))] at other
        cases other
    subst first
    subst own
    have same : run = others := by
      have runAll : ∀ d ∈ run, isOperator d = true :=
        fun d member => isRun.all d (List.mem_cons_of_mem _ member)
      have othersAll : ∀ d ∈ others, isOperator d = true :=
        fun d member => all d (List.mem_cons_of_mem _ member)
      rw [← (Phrases.takeWhile_append_ends runAll isRun.right).1, whole]
      exact (Phrases.takeWhile_append_ends othersAll ends).1
    subst same
    exact ⟨.token, List.mem_singleton_self _⟩
  | other noName noOperator noNumeral =>
    rcases List.append_eq_singleton_iff.mp own.symm with ⟨-, same⟩ | ⟨-, nothing⟩
    · rw [(List.cons.inj same).1, noOperator] at operator
      cases operator
    · cases nothing

/-- A step does not end between two operators. -/
theorem Form.ends (form : Form offset taken later tokens) :
    (∀ d ∈ taken.getLast?, isOperator d = false) ∨ ∀ d ∈ later.head?, isOperator d = false := by
  cases form with
  | @header header later last =>
    left
    intro d closing
    rw [Header.text, List.getLast?_concat] at closing
    cases closing
    rfl
  | word inName isWord =>
    left
    intro d last
    have chars := wordAt_chars (taken ++ later)
    rw [isWord] at chars
    rcases chars d (List.mem_of_getLast? last) with name | space
    · exact not_isOperator_of_isNameChar name
    · exact not_isOperator_of_isLineSpace space
  | number longest =>
    left
    intro d last
    by_contra operator
    obtain ⟨front, rfl⟩ := List.getLast?_eq_some_iff.mp last
    obtain ⟨-, place⟩ := longest.mem.signPlace rfl (eq_true_of_ne_false operator)
    obtain ⟨e, rest, nothing, -⟩ := place.head
    cases nothing
  | operator nonempty all ends => exact .inr ends
  | other noName noOperator noNumeral =>
    left
    rintro _ ⟨⟩
    exact noOperator

/-- Only a step over operators makes a token of them. -/
theorem Form.operator_token (form : Form offset taken later tokens) {token : Token}
    (member : token ∈ tokens) (operator : token.cls = .operator) :
    token = .ofText .operator taken offset ∧ IsOperatorRun [] taken later := by
  cases form with
  | header last =>
    have cls := Header.mem_tokens_cls member
    rw [operator] at cls
    simp at cls
  | @word cls _ _ inName isWord =>
    have among := wordAt_cls (taken ++ later)
    rw [List.mem_singleton.mp member] at operator
    rw [isWord, show cls = .operator from operator] at among
    simp at among
  | number longest =>
    rw [List.mem_singleton.mp member] at operator
    cases operator
  | operator nonempty all ends =>
    exact ⟨List.mem_singleton.mp member, nonempty, all, (fun _ none => nomatch none), ends⟩
  | other noName noOperator noNumeral =>
    rw [List.mem_singleton.mp member] at operator
    cases operator

end Steps

/-! ## Runs in a text -/

theorem exists_runPlace (text : List Char) : ∀ before run after,
    text = before ++ (run ++ after) → IsOperatorRun before run after →
      ∃ place : RunPlace, place.Holds (table.tokens text) (Utf8.size before) run := by
  have placed := tokens_induction (motive := fun offset text tokens => ∀ before run after,
    text = before ++ (run ++ after) → IsOperatorRun before run after →
      ∃ place : RunPlace, place.Holds tokens (offset + Utf8.size before) run) ?_ ?_ text
  · simpa only [Nat.zero_add] using placed
  · intro offset before run after nothing isRun
    have empty := (List.append_eq_nil_iff.mp (List.append_eq_nil_iff.mp nothing.symm).2).1
    exact absurd empty isRun.nonempty
  · intro offset taken later tokens others form inductionHypothesis before run after whole isRun
    -- The run begins behind the step, or in it.
    have behind : ∀ middle, before = taken ++ middle → later = middle ++ (run ++ after) →
        ∃ place : RunPlace, place.Holds (tokens ++ others) (offset + Utf8.size before) run := by
      rintro middle rfl rest
      obtain ⟨place, holds⟩ := inductionHypothesis middle run after rest
        ⟨isRun.nonempty, isRun.all, fun d last =>
          isRun.left d (List.mem_getLast?_append_of_mem_getLast? last), isRun.right⟩
      rw [Nat.add_assoc, ← Utf8.size_append] at holds
      exact ⟨place, holds.mono (List.subset_append_right _ _)⟩
    rcases List.append_eq_append_iff.mp whole with ⟨middle, before_eq, rest⟩ | ⟨middle, own, rest⟩
    · exact behind middle before_eq rest
    · cases middle with
      | nil =>
        refine behind [] ?_ rest.symm
        rw [own, List.append_nil, List.append_nil]
      | cons c middle =>
        obtain ⟨d, run, rfl⟩ := List.exists_cons_of_ne_nil isRun.nonempty
        rw [List.cons_append, List.cons_append] at rest
        obtain ⟨rfl, inside⟩ := List.cons.inj rest
        obtain ⟨place, holds⟩ := form.exists_place own isRun inside
        exact ⟨place, holds.mono (List.subset_append_left _ _)⟩

theorem isOperatorRun_of_token (text : List Char) : ∀ token ∈ table.tokens text,
    token.cls = .operator → ∃ before after, text = before ++ (token.text ++ after) ∧
      token = .ofText .operator token.text (Utf8.size before) ∧
      IsOperatorRun before token.text after := by
  intro token member operator
  obtain ⟨before, taken, later, own, formIn, among, earlier⟩ := exists_form text token member
  obtain ⟨placed, isRun⟩ := formIn.form.operator_token among operator
  rw [Nat.zero_add] at placed
  subst placed
  refine ⟨before, later, formIn.split, rfl, isRun.nonempty, isRun.all, ?_, isRun.right⟩
  intro d last
  obtain ⟨front, other, others, lastIn, ends⟩ := earlier d last
  rcases lastIn.form.ends with behind | begins
  · exact behind d ends
  · -- The step before does not end between two operators.
    obtain ⟨e, run, rfl⟩ := List.exists_cons_of_ne_nil isRun.nonempty
    have yes := isRun.all e List.mem_cons_self
    rw [begins e rfl] at yes
    cases yes

/-- Each run of operators is a token as a whole, or lies in a parameter list, or is the sign of a
number or of its exponent, and it is only one of these.  Each token of operators is such a run, so
that two of them never touch. -/
theorem operator_runs : ∃ table, RuleTable.setanta = .ok table ∧ ∀ text,
    (∀ before run after, text = before ++ (run ++ after) → IsOperatorRun before run after →
      ∃! place : RunPlace, place.Holds (table.tokens text) (Utf8.size before) run) ∧
    (∀ token ∈ table.tokens text, token.cls = .operator →
      ∃ before after, text = before ++ (token.text ++ after) ∧
        token = .ofText .operator token.text (Utf8.size before) ∧
        IsOperatorRun before token.text after) ∧
    ∀ token ∈ table.tokens text, ∀ following ∈ table.tokens text,
      token.cls = .operator → following.cls = .operator → following.start ≠ token.stop := by
  refine ⟨table, setanta_eq, fun text => ⟨?_, isOperatorRun_of_token text, ?_⟩⟩
  · intro before run after whole isRun
    obtain ⟨place, holds⟩ := exists_runPlace text before run after whole isRun
    exact ⟨place, holds, fun other otherHolds =>
      otherHolds.unique (table.stepsFrom_tiles 0 text) isRun.nonempty holds⟩
  · intro token member following followingMember operator followingOperator touching
    obtain ⟨before, after, whole, placed, isRun⟩ := isOperatorRun_of_token text token member operator
    obtain ⟨front, back, split, followingPlaced, isNext⟩ :=
      isOperatorRun_of_token text following followingMember followingOperator
    -- Behind the same byte stands the same text.
    have rest := Utf8.drop?_size_append (before ++ token.text) after
    have again := Utf8.drop?_size_append front (following.text ++ back)
    have bytes : Utf8.size front = Utf8.size (before ++ token.text) := by
      rw [placed, followingPlaced] at touching
      rw [Utf8.size_append]
      exact touching
    rw [List.append_assoc, ← whole] at rest
    rw [← split, bytes, rest] at again
    obtain ⟨c, run, filled⟩ := List.exists_cons_of_ne_nil isNext.nonempty
    have yes := isNext.all c (filled ▸ List.mem_cons_self)
    rw [isRun.right c (by rw [Option.some.inj again, filled]; rfl)] at yes
    cases yes

/-- A sign behind another operator belongs to the run, and not to the number. -/
example : (table.tokens "x=-5-1e-2".toList).map (fun token => (token.cls, token.text))
    = [(.identifier, ['x']), (.operator, ['=', '-']), (.number, ['5']),
      (.number, ['-', '1', 'e', '-', '2'])] := by
  decide +kernel

end Highlighter.Setanta
