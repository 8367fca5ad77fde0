import Highlighter.Proofs.Language.Forms

/-!
# Borders of reserved words

A rule for reserved words looks at the character behind a word, and not at the one before it.
A step ends in the middle of a run of name characters only behind a hexadecimal number,
whose last digits can be letters.  Everywhere else a reserved word stands alone.
-/

set_option autoImplicit false

namespace Highlighter.Setanta

/-! ## How numbers end -/

/-- A number that is written in hexadecimal digits. -/
def IsHexNumeral (text : List Char) : Prop :=
  ∃ mark digits, text = '0' :: mark :: digits ∧ (mark = 'x' ∨ mark = 'X') ∧ digits ≠ [] ∧
    ∀ c ∈ digits, isHexDigit c = true

section Numbers

variable {text : List Char} {c : Char}

theorem IsHexNumeral.isNumeral (isHex : IsHexNumeral text) : IsNumeral text := by
  obtain ⟨mark, digits, rfl, isMark, nonempty, isDigits⟩ := isHex
  exact .hex isMark nonempty isDigits

/-- A hexadecimal number goes on with any hexadecimal digit. -/
theorem IsHexNumeral.concat (isHex : IsHexNumeral text) (digit : isHexDigit c = true) :
    IsHexNumeral (text ++ [c]) := by
  obtain ⟨mark, digits, rfl, isMark, -, isDigits⟩ := isHex
  refine ⟨mark, digits ++ [c], rfl, isMark, List.concat_ne_nil c digits, fun d member => ?_⟩
  rcases List.mem_append.mp member with before | last
  · exact isDigits d before
  · rw [List.mem_singleton.mp last]
    exact digit

theorem not_isNameChar_of_isDigit_or_point (other : c.isDigit = true ∨ c = '.') :
    isNameChar c = false := by
  by_contra inName
  obtain ⟨digit, -, -, point⟩ := not_contains_of_isNameChar (eq_true_of_ne_false inName)
  rw [digitSet_contains] at digit
  rcases other with isDigit | isPoint
  · rw [digit] at isDigit
    cases isDigit
  · exact point isPoint

/-- Only a hexadecimal number ends with a character of names. -/
theorem IsNumeral.isHexNumeral (isNumeral : IsNumeral text) (ends : c ∈ text.getLast?)
    (inName : isNameChar c = true) : IsHexNumeral text := by
  cases isNumeral with
  | hex isMark nonempty isDigits => exact ⟨_, _, rfl, isMark, nonempty, isDigits⟩
  | @decimal sign mantissa exponent isSign isMantissa isExponent =>
    -- A decimal one ends with a digit or with the point of its mantissa.
    have other : c.isDigit = true ∨ c = '.' := by
      rw [List.getLast?_append_of_ne_nil _ (by simp [isMantissa.ne_nil])] at ends
      rcases isExponent with rfl | @⟨mark, sign, digits, isMark, isSign, isDigits⟩
      · rw [List.append_nil] at ends
        exact isMantissa.isDigit_or_point c (List.mem_of_getLast? ends)
      · rw [List.getLast?_append_of_ne_nil _ (List.cons_ne_nil mark _), ← List.cons_append,
          List.getLast?_append_of_ne_nil _ isDigits.1] at ends
        exact .inl (isDigits.2 c (List.mem_of_getLast? ends))
    rw [not_isNameChar_of_isDigit_or_point other] at inName
    cases inName

/-- The longest number in a text does not stop before a digit that it could take. -/
theorem IsHexNumeral.ends (isHex : IsHexNumeral text) {later : List Char}
    (longest : IsLongest IsNumeral (text ++ later) text) :
    ∀ c ∈ later.head?, isHexDigit c = false := by
  intro c next
  by_contra digit
  obtain ⟨others, rfl⟩ := List.head?_eq_some_iff.mp next
  have more := longest.longest (text ++ [c])
    (isHex.concat (eq_true_of_ne_false digit)).isNumeral ⟨others, by simp⟩
  rw [List.length_append, List.length_singleton] at more
  omega

end Numbers

/-! ## How steps end -/

section Steps

variable {offset : Nat} {taken later : List Char} {tokens : List Token} {token : Token} {c : Char}

/-- Behind a step that ends with a character of names comes none, or the step took a hexadecimal
number and no further digit comes. -/
theorem Form.ends_name (form : Form offset taken later tokens) (ends : c ∈ taken.getLast?)
    (inName : isNameChar c = true) : (∀ d ∈ later.head?, isNameChar d = false) ∨
      (tokens = [.ofText .number taken offset] ∧ IsHexNumeral taken ∧
        ∀ d ∈ later.head?, isHexDigit d = false) := by
  cases form with
  | @header header later last =>
    rw [Header.text, List.getLast?_concat] at ends
    cases ends
    cases inName
  | word wordBegins isWord =>
    have behind := wordAt_ends (taken ++ later)
    rw [isWord, List.drop_left] at behind
    exact .inl behind
  | number longest =>
    have isHex := longest.mem.isHexNumeral ends inName
    exact .inr ⟨rfl, isHex, isHex.ends longest⟩
  | operator nonempty all others =>
    have operator := all c (List.mem_of_getLast? ends)
    rw [not_isOperator_of_isNameChar inName] at operator
    cases operator
  | @other d later noName noOperator noNumeral =>
    obtain rfl : d = c := by simpa using ends
    rw [inName] at noName
    cases noName

theorem wordAt_atom {text word : List Char} (isWord : wordAt text = (.atom, word)) :
    word ∈ truthWords := by
  unfold wordAt at isWord
  dsimp only at isWord
  split at isWord
  · cases isWord
  · split at isWord
    · cases isWord
    · split at isWord
      · cases isWord
      · split at isWord
        · rename_i truth
          cases isWord
          exact truth
        · cases isWord

/-- A token of a reserved word is all that its step takes. -/
theorem Form.reserved_token (form : Form offset taken later tokens) (member : token ∈ tokens)
    (reserved : token.cls ∈ [TokenClass.keyword, .builtin, .atom]) :
    token = .ofText token.cls taken offset ∧ wordAt (taken ++ later) = (token.cls, taken) ∧
      ∀ d ∈ (taken ++ later).head?, isNameChar d = true := by
  cases form with
  | header last =>
    have own := Header.mem_tokens_cls member
    generalize token.cls = cls at reserved own
    cases cls <;> simp at reserved own
  | word inName isWord =>
    rw [List.mem_singleton.mp member]
    exact ⟨rfl, isWord, inName⟩
  | number longest =>
    rw [List.mem_singleton.mp member] at reserved
    simp [Token.ofText] at reserved
  | operator nonempty all ends =>
    rw [List.mem_singleton.mp member] at reserved
    simp [Token.ofText] at reserved
  | other noName noOperator noNumeral =>
    rw [List.mem_singleton.mp member] at reserved
    simp [Token.ofText] at reserved

/-- No number goes over into a truth value, for these begin with hexadecimal digits. -/
theorem isHexDigit_of_truthWord {word : List Char} (member : word ∈ truthWords) :
    ∃ d rest, word = d :: rest ∧ isHexDigit d = true := by
  have begins : ∀ word ∈ truthWords, word.head?.any isHexDigit = true := by decide
  obtain ⟨d, first, digit⟩ := (Option.any_eq_true _ _).mp (begins word member)
  obtain ⟨rest, rfl⟩ := List.head?_eq_some_iff.mp first
  exact ⟨d, rest, rfl, digit⟩

end Steps

/-! ## Reserved words in a text -/

/-- No character of names stands directly behind a reserved word.  Directly before one stands only
the last digit of a hexadecimal number, if this could not go on with the word; so before a truth
value stands none. -/
theorem reserved_borders : ∃ table, RuleTable.setanta = .ok table ∧ ∀ text,
    ∀ token ∈ table.tokens text, token.cls ∈ [TokenClass.keyword, .builtin, .atom] →
      ∃ before after, text = before ++ (token.text ++ after) ∧
        token = .ofText token.cls token.text (Utf8.size before) ∧
        (∀ c ∈ after.head?, isNameChar c = false) ∧
        (token.cls = .atom → ∀ c ∈ before.getLast?, isNameChar c = false) ∧
        ∀ c ∈ before.getLast?, isNameChar c = true →
          (∃ number ∈ table.tokens text, number.cls = .number ∧ number.stop = token.start ∧
            IsHexNumeral number.text ∧ c ∈ number.text.getLast?) ∧
          ∀ d ∈ token.text.head?, isHexDigit d = false := by
  refine ⟨table, setanta_eq, fun text token member reserved => ?_⟩
  obtain ⟨before, taken, later, own, formIn, among, earlier⟩ := exists_form text token member
  obtain ⟨placed, isWord, inName⟩ := formIn.form.reserved_token among reserved
  obtain ⟨-, -, -, nonempty, -⟩ := (table.stepsFrom_tiles 0 text).exists_split token member
  have spelled : token.text = taken := congrArg Token.text placed
  rw [spelled] at nonempty
  obtain ⟨d, rest, rfl⟩ := List.exists_cons_of_ne_nil nonempty
  have behind := wordAt_ends (d :: rest ++ later)
  rw [isWord, List.drop_left] at behind
  -- The step before the word ends with a character of names: it took a hexadecimal number.
  have number : ∀ c ∈ before.getLast?, isNameChar c = true →
      (∃ number ∈ table.tokens text, number.cls = .number ∧ number.stop = token.start ∧
        IsHexNumeral number.text ∧ c ∈ number.text.getLast?) ∧ isHexDigit d = false := by
    intro c last name
    obtain ⟨front, digits, others, lastIn, ends⟩ := earlier c last
    rcases lastIn.form.ends_name ends name with none | ⟨rfl, isHex, stops⟩
    · have first := none d rfl
      rw [inName d rfl] at first
      cases first
    · have parts : before = front ++ digits := by
        have whole := lastIn.split
        rw [formIn.split, ← List.append_assoc front] at whole
        exact List.append_cancel_right whole
      refine ⟨⟨_, lastIn.among.subset (List.mem_singleton_self _), rfl, ?_, isHex, ends⟩,
        stops d rfl⟩
      rw [placed, parts, Utf8.size_append, Nat.zero_add, Nat.zero_add]
      rfl
  rw [spelled]
  refine ⟨before, later, formIn.split, ?_, behind, ?_, ?_⟩
  · rwa [Nat.zero_add] at placed
  · intro atom c last
    by_contra name
    rw [atom] at isWord
    obtain ⟨e, others, same, digit⟩ := isHexDigit_of_truthWord (wordAt_atom isWord)
    obtain ⟨rfl, -⟩ := List.cons.inj same
    rw [(number c last (eq_true_of_ne_false name)).2] at digit
    cases digit
  · intro c last name
    obtain ⟨found, other⟩ := number c last name
    refine ⟨found, fun e first => ?_⟩
    cases first
    exact other

/-- A reserved word can follow a hexadecimal number that ends with a letter. -/
theorem keyword_behind_number : ∃ table, RuleTable.setanta = .ok table ∧
    ∃ token ∈ table.tokens "0xfle".toList, token.cls = .keyword ∧
      ∃ before, "0xfle".toList = before ++ token.text ∧ token.start = Utf8.size before ∧
        ∃ c ∈ before.getLast?, isNameChar c = true := by
  refine ⟨table, setanta_eq, .ofText .keyword ['l', 'e'] 3, by decide +kernel, rfl,
    ['0', 'x', 'f'], by decide, by decide, 'f', rfl, by decide⟩

end Highlighter.Setanta
