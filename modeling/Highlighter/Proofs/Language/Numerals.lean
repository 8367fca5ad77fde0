import Highlighter.Proofs.Language.Numbers
import Highlighter.Proofs.Pattern.Greedy
import Highlighter.Proofs.Scan.AnyOffset

/-!
# Numerals

The grammar of numbers, told without the pattern for them, and what the rule for
numbers finds: the longest numeral at the front of a text.  The pattern prefers its
first alternative, but it is put together such that this is the longest.
-/

set_option autoImplicit false

namespace Highlighter.Setanta

/-! ## The grammar -/

def isHexDigit (c : Char) : Bool :=
  c.isDigit || ('a' ≤ c && c ≤ 'f') || ('A' ≤ c && c ≤ 'F')

/-- Digits of ASCII in a row. -/
def IsDigits (text : List Char) : Prop :=
  text ≠ [] ∧ ∀ c ∈ text, c.isDigit = true

/-- What may stand for a sign. -/
def signs : List (List Char) := [[], ['+'], ['-']]

/-- A number without sign and exponent. -/
inductive IsMantissa : List Char → Prop where
  | whole {digits : List Char} (isDigits : IsDigits digits) : IsMantissa digits
  | pointed {digits fraction : List Char} (isDigits : IsDigits digits)
      (isFraction : ∀ c ∈ fraction, c.isDigit = true) : IsMantissa (digits ++ '.' :: fraction)
  | fraction {digits : List Char} (isDigits : IsDigits digits) : IsMantissa ('.' :: digits)

inductive IsExponent : List Char → Prop where
  | mk {mark : Char} {sign digits : List Char} (isMark : mark = 'e' ∨ mark = 'E')
      (isSign : sign ∈ signs) (isDigits : IsDigits digits) : IsExponent (mark :: (sign ++ digits))

/-- A number as it is written in a program. -/
inductive IsNumeral : List Char → Prop where
  | hex {mark : Char} {digits : List Char} (isMark : mark = 'x' ∨ mark = 'X')
      (nonempty : digits ≠ []) (isDigits : ∀ c ∈ digits, isHexDigit c = true) :
      IsNumeral ('0' :: mark :: digits)
  | decimal {sign mantissa exponent : List Char} (isSign : sign ∈ signs)
      (isMantissa : IsMantissa mantissa) (isExponent : exponent = [] ∨ IsExponent exponent) :
      IsNumeral (sign ++ (mantissa ++ exponent))

theorem IsMantissa.ne_nil {text : List Char} (isMantissa : IsMantissa text) : text ≠ [] := by
  cases isMantissa with
  | whole isDigits => exact isDigits.1
  | pointed isDigits _ => exact List.append_ne_nil_of_left_ne_nil isDigits.1 _
  | fraction _ => exact List.cons_ne_nil _ _

theorem IsNumeral.ne_nil {text : List Char} (isNumeral : IsNumeral text) : text ≠ [] := by
  cases isNumeral with
  | hex => exact List.cons_ne_nil _ _
  | decimal _ isMantissa _ => simp [isMantissa.ne_nil]

theorem IsMantissa.isDigit_or_point {mantissa : List Char} (isMantissa : IsMantissa mantissa) :
    ∀ c ∈ mantissa, c.isDigit = true ∨ c = '.' := by
  intro c member
  cases isMantissa with
  | whole isDigits => exact .inl (isDigits.2 c member)
  | pointed isDigits isFraction =>
    rcases List.mem_append.mp member with digit | later
    · exact .inl (isDigits.2 c digit)
    · rcases List.mem_cons.mp later with point | digit
      · exact .inr point
      · exact .inl (isFraction c digit)
  | fraction isDigits =>
    rcases List.mem_cons.mp member with point | digit
    · exact .inr point
    · exact .inl (isDigits.2 c digit)

/-! ## The sets of the pattern -/

theorem digitSet_contains (c : Char) : digitSet.contains c = c.isDigit := by
  rw [Bool.eq_iff_iff]
  simp [digitSet, CodeRanges.contains, Char.isDigit, UInt32.le_iff_toNat_le]

theorem hexDigitSet_contains (c : Char) : hexDigitSet.contains c = isHexDigit c := by
  rw [Bool.eq_iff_iff]
  simp [hexDigitSet, CodeRanges.contains, isHexDigit, Char.isDigit, UInt32.le_iff_toNat_le,
    Char.le_def]
  omega

theorem xSet_contains (c : Char) : xSet.contains c = (c == 'x' || c == 'X') := by
  rw [Bool.eq_iff_iff]
  simp [xSet, CodeRanges.contains, ← Char.toNat_inj]
  omega

theorem eSet_contains (c : Char) : eSet.contains c = (c == 'e' || c == 'E') := by
  rw [Bool.eq_iff_iff]
  simp [eSet, CodeRanges.contains, ← Char.toNat_inj]
  omega

theorem signSet_contains (c : Char) : signSet.contains c = (c == '+' || c == '-') := by
  rw [Bool.eq_iff_iff]
  simp [signSet, CodeRanges.contains, ← Char.toNat_inj]
  omega

theorem not_contains_of_digit {c : Char} (digit : digitSet.contains c = true) :
    signSet.contains c = false ∧ eSet.contains c = false ∧ c ≠ '.' := by
  simp [digitSet, CodeRanges.contains] at digit
  refine ⟨?_, ?_, ?_⟩
  · simp [signSet, CodeRanges.contains]
    omega
  · simp [eSet, CodeRanges.contains]
    omega
  · rintro rfl
    simp at digit

/-! ## The phrases spell the grammar -/

theorem isDigits_spell : (Phrases.someRun digitSet.contains).Spell IsDigits := by
  refine (Phrases.Spell.someRun _).congr fun phrase => and_congr_right fun _ => ?_
  exact forall₂_congr fun c _ => by rw [digitSet_contains]

theorem signs_spell : (Phrases.optional (.one signSet.contains)).Spell (· ∈ signs) := by
  refine (Phrases.Spell.one _).optional.congr fun phrase => ?_
  simp only [signSet_contains, signs, Bool.or_eq_true, beq_iff_eq, List.mem_cons,
    List.not_mem_nil, or_false]
  constructor
  · rintro (⟨c, rfl | rfl, rfl⟩ | rfl) <;> simp
  · rintro (rfl | rfl | rfl) <;> simp

theorem exponentPhrases_spell : exponentPhrases.Spell IsExponent := by
  refine ((Phrases.Spell.one _).andThen (signs_spell.andThen isDigits_spell)).congr fun phrase => ?_
  simp only [eSet_contains, Bool.or_eq_true, beq_iff_eq]
  constructor
  · rintro ⟨_, _, ⟨mark, isMark, rfl⟩, ⟨sign, digits, isSign, isDigits, rfl⟩, rfl⟩
    exact (IsExponent.mk isMark isSign isDigits :)
  · rintro ⟨isMark, isSign, isDigits⟩
    exact ⟨_, _, ⟨_, isMark, rfl⟩, ⟨_, _, isSign, isDigits, rfl⟩, rfl⟩

theorem fractionPhrases_spell : fractionPhrases.Spell IsMantissa := by
  refine (((Phrases.Spell.words _).andThen isDigits_spell).orElse (isDigits_spell.andThen
    ((Phrases.Spell.words _).optional.andThen (.run _)))).congr fun phrase => ?_
  simp only [digitSet_contains, List.mem_singleton]
  constructor
  · rintro (⟨_, digits, rfl, isDigits, rfl⟩ |
      ⟨digits, _, isDigits, ⟨_, fraction, rfl | rfl, isFraction, rfl⟩, rfl⟩)
    · exact .fraction isDigits
    · exact .pointed isDigits isFraction
    · refine .whole ⟨List.append_ne_nil_of_left_ne_nil isDigits.1 _, fun c member => ?_⟩
      rcases List.mem_append.mp member with front | back
      · exact isDigits.2 c front
      · exact isFraction c back
  · rintro (isDigits | ⟨isDigits, isFraction⟩ | isDigits)
    · refine .inr ⟨_, [], isDigits, ⟨[], [], .inr rfl, ?_, rfl⟩, List.append_nil _⟩
      simp
    · exact .inr ⟨_, _, isDigits, ⟨_, _, .inl rfl, isFraction, rfl⟩, rfl⟩
    · exact .inl ⟨_, _, rfl, isDigits, rfl⟩

theorem numberPhrases_spell : numberPhrases.Spell IsNumeral := by
  refine (((Phrases.Spell.words _).andThen ((Phrases.Spell.one _).andThen (.someRun _))).orElse
    (signs_spell.andThen
      (fractionPhrases_spell.andThen exponentPhrases_spell.optional))).congr fun phrase => ?_
  simp only [xSet_contains, hexDigitSet_contains, List.mem_singleton, Bool.or_eq_true, beq_iff_eq]
  constructor
  · rintro (⟨_, _, rfl, ⟨_, digits, ⟨mark, isMark, rfl⟩, ⟨nonempty, isDigits⟩, rfl⟩, rfl⟩ |
      ⟨sign, _, isSign, ⟨mantissa, exponent, isMantissa, isExponent, rfl⟩, rfl⟩)
    · exact .hex isMark nonempty isDigits
    · exact .decimal isSign isMantissa isExponent.symm
  · rintro (⟨isMark, nonempty, isDigits⟩ | ⟨isSign, isMantissa, isExponent⟩)
    · exact .inl ⟨_, _, rfl, ⟨_, _, ⟨_, isMark, rfl⟩, ⟨nonempty, isDigits⟩, rfl⟩, rfl⟩
    · exact .inr ⟨_, _, isSign, ⟨_, _, isMantissa, isExponent.symm, rfl⟩, rfl⟩

/-! ## The preferred number is the longest -/

section Greedy

open Highlighter.Phrases (Greedy)

variable {c : Char} {text phrase : List Char}

/-- The digits after the point, and the exponent. -/
def fractionalPhrases : Phrases :=
  (Phrases.run digitSet.contains).andThen (.optional exponentPhrases)

/-- All that comes after the digits before the point. -/
def pointedPhrases : Phrases :=
  (Phrases.optional (.words [['.']])).andThen fractionalPhrases

/-- The numbers that are not hexadecimal. -/
def decimalPhrases : Phrases :=
  (Phrases.optional (.one signSet.contains)).andThen
    (fractionPhrases.andThen (.optional exponentPhrases))

theorem exponentPhrases_digit (digit : digitSet.contains c = true) (text : List Char) :
    exponentPhrases (c :: text) = [] := by
  simp [exponentPhrases, Phrases.andThen, Phrases.one, (not_contains_of_digit digit).2.1]

theorem optional_exponent_digit (digit : digitSet.contains c = true)
    (member : phrase ∈ Phrases.optional exponentPhrases (c :: text)) : phrase = [] := by
  rw [Phrases.optional, exponentPhrases_digit digit, List.nil_append] at member
  exact List.mem_singleton.mp member

theorem fractionalPhrases_point (member : phrase ∈ fractionalPhrases ('.' :: text)) :
    phrase = [] := by
  have noDigit : digitSet.contains '.' = false := by decide
  have noMark : eSet.contains '.' = false := by decide
  simpa [fractionalPhrases, exponentPhrases, Phrases.andThen, Phrases.run, Phrases.optional,
    Phrases.one, noDigit, noMark] using member

theorem fractionalPhrases_digit (digit : digitSet.contains c = true)
    (member : phrase ∈ fractionalPhrases (c :: text)) :
    phrase = [] ∨ ∃ more ∈ fractionalPhrases text, phrase = c :: more := by
  rw [fractionalPhrases, Phrases.run_andThen_cons digit, List.mem_append] at member
  rcases member with taken | left
  · obtain ⟨more, found, rfl⟩ := List.mem_map.mp taken
    exact .inr ⟨more, found, rfl⟩
  · exact .inl (optional_exponent_digit digit left)

theorem pointedPhrases_digit (digit : digitSet.contains c = true)
    (member : phrase ∈ pointedPhrases (c :: text)) :
    phrase = [] ∨ ∃ more ∈ pointedPhrases text, phrase = c :: more := by
  obtain ⟨point, pointFound, rest, restFound, rfl⟩ := Phrases.mem_andThen.mp member
  have noPoint : point = [] := by
    rcases List.mem_append.mp pointFound with found | skipped
    · obtain ⟨spelled, front⟩ := Phrases.mem_words.mp found
      rw [List.mem_singleton.mp spelled] at front
      exact absurd (List.cons_prefix_cons.mp front).1.symm (not_contains_of_digit digit).2.2
    · exact List.mem_singleton.mp skipped
  subst noPoint
  rcases fractionalPhrases_digit digit restFound with rfl | ⟨more, found, rfl⟩
  · exact .inl rfl
  · exact .inr ⟨more, Phrases.mem_andThen.mpr ⟨[], by simp [Phrases.optional], more, found, rfl⟩,
      rfl⟩

theorem exponentPhrases_greedy : exponentPhrases.Greedy := by
  refine .andThen (Phrases.single_one _) (.optional_andThen (Phrases.single_one _) (.someRun _) ?_)
  -- A sign is no digit.
  intro text sign isSign digits isDigits
  obtain ⟨⟨tail, rfl⟩, c, accepted, rfl⟩ := (Phrases.Spell.one _ _ _).mp isSign
  obtain ⟨nonempty, front, all⟩ := Phrases.mem_someRun.mp isDigits
  obtain ⟨d, others, rfl⟩ := List.exists_cons_of_ne_nil nonempty
  have same := (List.cons_prefix_cons.mp front).1
  rw [← same, (not_contains_of_digit (all d List.mem_cons_self)).1] at accepted
  cases accepted

theorem fractionalPhrases_greedy : fractionalPhrases.Greedy :=
  .run_andThen exponentPhrases_greedy.optional fun _ _ digit _ member =>
    .inl (optional_exponent_digit digit member)

theorem pointedPhrases_greedy : pointedPhrases.Greedy := by
  refine .optional_andThen (Phrases.single_words _) fractionalPhrases_greedy ?_
  intro text point isPoint rest restFound
  obtain ⟨spelled, tail, rfl⟩ := Phrases.mem_words.mp isPoint
  rw [List.mem_singleton.mp spelled] at restFound
  rw [fractionalPhrases_point restFound]
  exact Nat.zero_le _

/-- A number without sign begins with a point or with a digit. -/
theorem mantissa_exponent_greedy :
    (fractionPhrases.andThen (.optional exponentPhrases)).Greedy := by
  unfold fractionPhrases
  rw [Phrases.orElse_andThen, Phrases.andThen_assoc, Phrases.andThen_assoc, Phrases.andThen_assoc]
  refine .orElse ?_ ?_ ?_
  · exact .andThen (Phrases.single_words _) (.someRun_andThen exponentPhrases_greedy.optional
      fun _ _ digit _ member => .inl (optional_exponent_digit digit member))
  · exact .someRun_andThen pointedPhrases_greedy fun _ _ digit _ member =>
      pointedPhrases_digit digit member
  · intro text fraction isFraction whole isWhole
    obtain ⟨_, point, -⟩ := Phrases.mem_andThen.mp isFraction
    obtain ⟨digits, isDigits, rest, restFound, rfl⟩ := Phrases.mem_andThen.mp isWhole
    obtain ⟨spelled, tail, rfl⟩ := Phrases.mem_words.mp point
    obtain ⟨nonempty, front, all⟩ := Phrases.mem_someRun.mp isDigits
    obtain ⟨d, others, rfl⟩ := List.exists_cons_of_ne_nil nonempty
    rw [List.mem_singleton.mp spelled] at front
    exact absurd (List.cons_prefix_cons.mp front).1
      (not_contains_of_digit (all d List.mem_cons_self)).2.2

theorem hexPhrases_greedy : hexPhrases.Greedy :=
  .andThen (Phrases.single_words _) (.andThen (Phrases.single_one _) (.someRun _))

theorem decimalPhrases_greedy : decimalPhrases.Greedy := by
  refine .optional_andThen (Phrases.single_one _) mantissa_exponent_greedy ?_
  intro text sign isSign rest restFound
  obtain ⟨⟨tail, rfl⟩, c, accepted, rfl⟩ := (Phrases.Spell.one _ _ _).mp isSign
  have noDigit : digitSet.contains c = false := by
    refine Bool.eq_false_iff.mpr fun digit => ?_
    rw [(not_contains_of_digit digit).1] at accepted
    cases accepted
  have noPoint : '.' ≠ c := by
    rintro rfl
    exact absurd accepted (by decide)
  simp [fractionPhrases, Phrases.orElse, Phrases.andThen, Phrases.words, List.isPrefixOf,
    Phrases.someRun_cons, noDigit, noPoint] at restFound

/-- What begins a hexadecimal number is a decimal one up to its mark only. -/
theorem decimalPhrases_hex {mark : Char} (isMark : xSet.contains mark = true) (text : List Char) :
    decimalPhrases ('0' :: mark :: text) = [['0']] := by
  have zero : signSet.contains '0' = false ∧ digitSet.contains '0' = true := by decide
  have other : digitSet.contains mark = false ∧ eSet.contains mark = false ∧ '.' ≠ mark := by
    rw [xSet_contains, Bool.or_eq_true, beq_iff_eq, beq_iff_eq] at isMark
    rcases isMark with rfl | rfl
    · decide
    · decide
  simp [decimalPhrases, fractionPhrases, exponentPhrases, Phrases.orElse, Phrases.andThen,
    Phrases.optional, Phrases.words, Phrases.one, Phrases.run, List.isPrefixOf,
    Phrases.someRun_cons, zero, other]

theorem numberPhrases_greedy : numberPhrases.Greedy := by
  refine .orElse hexPhrases_greedy decimalPhrases_greedy ?_
  rintro text hex isHex decimal (isDecimal : decimal ∈ decimalPhrases text)
  obtain ⟨zero, zeroFound, _, rest, rfl⟩ := Phrases.mem_andThen.mp isHex
  obtain ⟨spelled, tail, rfl⟩ := Phrases.mem_words.mp zeroFound
  rw [List.mem_singleton.mp spelled] at rest isDecimal ⊢
  obtain ⟨_, markFound, _, -, rfl⟩ := Phrases.mem_andThen.mp rest
  obtain ⟨front, mark, isMark, rfl⟩ := (Phrases.Spell.one _ _ _).mp markFound
  obtain ⟨later, whole⟩ := front
  rw [List.drop_left, List.singleton_append] at whole
  rw [← whole, List.singleton_append, decimalPhrases_hex isMark] at isDecimal
  rw [List.mem_singleton.mp isDecimal, List.length_append]
  exact Nat.le_add_right _ _

end Greedy

/-! ## What the rule finds -/

theorem numberRule_match?_iff {offset : Nat} {text : List Char} {found : Rule.Found} :
    numberRule.match? offset text = some found ↔ ∃ numeral, IsLongest IsNumeral text numeral ∧
      found = ⟨numeral.length, [.ofText .number numeral offset]⟩ :=
  Rule.match?_longest_iff numberTree_simple numberTree_reads numberPhrases_greedy
    numberPhrases_spell (fun empty => empty.ne_nil rfl) rfl rfl rfl offset text found

/-- The rule for numbers makes tokens where a numeral stands, and no others.  It makes one token,
of the longest numeral that stands there. -/
theorem number_longest : ∃ rule, number = .ok rule ∧ ∀ text offset,
    ((∃ tokens, rule.tokensAt? text offset = some tokens) ↔
      ∃ rest numeral, Utf8.drop? offset text = some rest ∧ numeral ≠ [] ∧ numeral <+: rest ∧
        IsNumeral numeral) ∧
    ∀ tokens, rule.tokensAt? text offset = some tokens →
      ∃ rest numeral, Utf8.drop? offset text = some rest ∧ IsLongest IsNumeral rest numeral ∧
        tokens = [.ofText .number numeral offset] := by
  have made : ∀ text offset tokens, numberRule.tokensAt? text offset = some tokens →
      ∃ rest numeral, Utf8.drop? offset text = some rest ∧ IsLongest IsNumeral rest numeral ∧
        tokens = [.ofText .number numeral offset] := by
    intro text offset tokens found
    obtain ⟨front, rest, -, rfl, rfl, -⟩ := Rule.tokensAt?_eq_some found
    rw [Rule.tokensAt?_size_append, Option.map_eq_some_iff] at found
    obtain ⟨matched, finds, rfl⟩ := found
    obtain ⟨numeral, longest, rfl⟩ := numberRule_match?_iff.mp finds
    exact ⟨rest, numeral, Utf8.drop?_size_append front rest, longest, rfl⟩
  refine ⟨numberRule, number_eq, fun text offset => ⟨⟨?_, ?_⟩, made text offset⟩⟩
  · rintro ⟨tokens, found⟩
    obtain ⟨rest, numeral, left, longest, -⟩ := made text offset tokens found
    exact ⟨rest, numeral, left, longest.mem.ne_nil, longest.front, longest.mem⟩
  · rintro ⟨rest, numeral, left, -, front, member⟩
    obtain ⟨before, rfl, rfl⟩ := Utf8.drop?_eq_some_iff.mp left
    obtain ⟨longest, isLongest⟩ :=
      numberPhrases_greedy.exists_isLongest numberPhrases_spell member front
    rw [Rule.tokensAt?_size_append, numberRule_match?_iff.mpr ⟨longest, isLongest, rfl⟩]
    exact ⟨_, rfl⟩

end Highlighter.Setanta
