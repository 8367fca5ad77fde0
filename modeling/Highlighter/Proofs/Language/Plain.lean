import Highlighter.Proofs.Language.Forms

/-!
# Plain tokens

What is left without a class: in a header the white space and the parentheses, and
elsewhere single characters that stand neither in names nor in numbers nor in operators.
A line feed is always left so, alone.
-/

set_option autoImplicit false

namespace Highlighter.Setanta

/-- A character of names, a digit or an operator. -/
def isClassed (c : Char) : Bool :=
  isNameChar c || c.isDigit || isOperator c

theorem not_isDigit_of_isLineSpace {c : Char} (space : isLineSpace c = true) :
    c.isDigit = false := by
  rw [← spaceSet_contains] at space
  rw [← digitSet_contains]
  simp [spaceSet, CodeRanges.contains] at space
  simp [digitSet, CodeRanges.contains]
  omega

theorem not_isClassed_of_isLineSpace {c : Char} (space : isLineSpace c = true) :
    isClassed c = false := by
  simp [isClassed, not_isNameChar_of_isLineSpace space, not_isDigit_of_isLineSpace space,
    not_isOperator_of_isLineSpace space]

theorem isNumeral_of_isDigit {c : Char} (digit : c.isDigit = true) : IsNumeral [c] := by
  have isDigits : IsDigits [c] := ⟨List.cons_ne_nil c [], List.forall_mem_singleton.mpr digit⟩
  have unsigned : [] ∈ signs := List.mem_cons_self
  exact .decimal unsigned (.whole isDigits) (.inl rfl)

namespace Header

/-- Without a class are in a header its white space and its parentheses. -/
theorem eq_space_of_plain {header : Header} {offset : Nat} {token : Token}
    (member : token ∈ header.tokens offset) (plain : token.cls = .plain) :
    token = .ofText .plain header.space (offset + Utf8.size header.word) ∨
      token.text = ['('] ∨ token.text = [')'] := by
  rw [tokens_eq] at member
  rcases member with _ | ⟨_, _ | ⟨_, _ | ⟨_, behind⟩⟩⟩
  · cases plain
  · exact .inl rfl
  · cases plain
  · have among := Token.piece_mem_of_mem_row behind
    rw [plain] at among
    exact .inr (by simpa using among)

end Header

/-- A token without a class is in a header, or it is one character of none of these kinds. -/
theorem Form.plain_cases {offset : Nat} {taken later : List Char} {tokens : List Token}
    {token : Token} (form : Form offset taken later tokens) (member : token ∈ tokens)
    (plain : token.cls = .plain) :
    (∃ header : Header, tokens = header.tokens offset ∧
        (token = .ofText .plain header.space (offset + Utf8.size header.word) ∨
          token.text = ['('] ∨ token.text = [')'])) ∨
      ∃ c, token.text = [c] ∧ isClassed c = false := by
  cases form with
  | @header header later last =>
    exact .inl ⟨header, rfl, Header.eq_space_of_plain member plain⟩
  | @word cls _ _ inName isWord =>
    have among := wordAt_cls (taken ++ later)
    rw [List.mem_singleton.mp member] at plain
    rw [isWord, show cls = .plain from plain] at among
    simp at among
  | number longest =>
    rw [List.mem_singleton.mp member] at plain
    cases plain
  | operator nonempty all ends =>
    rw [List.mem_singleton.mp member] at plain
    cases plain
  | @other c later noName noOperator noNumeral =>
    have noDigit : c.isDigit = false := by
      by_contra digit
      exact noNumeral [c] (List.prefix_append [c] later)
        (isNumeral_of_isDigit (eq_true_of_ne_false digit))
    rw [List.mem_singleton.mp member]
    exact .inr ⟨c, rfl, by simp [isClassed, noName, noDigit, noOperator]⟩

/-- No token without a class has a character of names, a digit or an operator. -/
theorem not_isClassed_of_plain {text : List Char} {token : Token}
    (member : token ∈ table.tokens text) (plain : token.cls = .plain) :
    ∀ c ∈ token.text, isClassed c = false := by
  obtain ⟨_, _, _, _, formIn, own, -⟩ := exists_form text token member
  rcases formIn.form.plain_cases own plain with
    ⟨header, -, rfl | opening | closing⟩ | ⟨c, alone, other⟩
  · exact fun c space => not_isClassed_of_isLineSpace (header.isLineSpace_of_mem c space)
  · rw [opening]
    exact List.forall_mem_singleton.mpr rfl
  · rw [closing]
    exact List.forall_mem_singleton.mpr rfl
  · rw [alone]
    exact List.forall_mem_singleton.mpr other

/-- Of more than one character is only the white space in a header. -/
theorem between_of_plain {text : List Char} {token : Token} (member : token ∈ table.tokens text)
    (plain : token.cls = .plain) (long : 1 < token.text.length) :
    (∀ c ∈ token.text, isLineSpace c = true) ∧ ∃ front definition name back,
      table.tokens text = front ++ definition :: token :: name :: back ∧
        definition.cls = .definition ∧ name.cls = .functionName := by
  obtain ⟨_, _, _, _, formIn, own, -⟩ := exists_form text token member
  rcases formIn.form.plain_cases own plain with
    ⟨header, rfl, rfl | opening | closing⟩ | ⟨c, alone, -⟩
  · obtain ⟨front, back, among⟩ := formIn.among
    rw [header.tokens_eq] at among
    rw [← among, List.append_assoc]
    exact ⟨header.isLineSpace_of_mem, front, _, _, _, rfl, rfl, rfl⟩
  · rw [opening] at long
    exact absurd long (by decide)
  · rw [closing] at long
    exact absurd long (by decide)
  · rw [alone] at long
    exact absurd long (Nat.lt_irrefl 1)

/-- Tokens without a class have no character of names, no digit and no operator.  A longer one is
the white space between the word and the name in a header.  Each line feed is a token without a
class, and stands in no other. -/
theorem plain_tokens : ∃ table, RuleTable.setanta = .ok table ∧ ∀ text,
    (∀ token ∈ table.tokens text, token.cls = .plain → ∀ c ∈ token.text,
      isNameChar c = false ∧ c.isDigit = false ∧ isOperator c = false) ∧
    (∀ token ∈ table.tokens text, token.cls = .plain → 1 < token.text.length →
      (∀ c ∈ token.text, isLineSpace c = true) ∧ ∃ front definition name back,
        table.tokens text = front ++ definition :: token :: name :: back ∧
          definition.cls = .definition ∧ name.cls = .functionName) ∧
    (∀ before after, text = before ++ '\n' :: after →
      .ofText .plain ['\n'] (Utf8.size before) ∈ table.tokens text) ∧
    ∀ token ∈ table.tokens text, '\n' ∈ token.text →
      token.cls = .plain ∧ token.text = ['\n'] := by
  refine ⟨table, setanta_eq, fun text => ⟨?_, ?_, ?_, ?_⟩⟩
  · intro token member plain c inside
    have other := not_isClassed_of_plain member plain c inside
    rw [isClassed, Bool.or_eq_false_iff, Bool.or_eq_false_iff] at other
    exact ⟨other.1.1, other.1.2, other.2⟩
  · exact fun token => between_of_plain
  · intro before after whole
    have placed := RuleTable.newline_mem_stepsFrom table_staysInLine 0 text before after whole
    rwa [Nat.zero_add] at placed
  · intro token member newline
    rw [RuleTable.eq_newline_of_mem_text table_staysInLine member newline]
    exact ⟨rfl, rfl⟩

/-- White space is one token in a header and one for each character elsewhere. -/
example : (table.tokens "gnímh  f()  ".toList).map (fun token => (token.cls, token.text))
    = [(.definition, ['g', 'n', 'í', 'm', 'h']), (.plain, [' ', ' ']), (.functionName, ['f']),
      (.plain, ['(']), (.plain, [')']), (.plain, [' ']), (.plain, [' '])] := by
  decide +kernel

end Highlighter.Setanta
