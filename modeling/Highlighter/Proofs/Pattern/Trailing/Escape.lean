import Highlighter.Proofs.Pattern.Trailing.Basic

/-!
# Escapes and counts before a trailing parenthesis

No character code, count or name holds a closing parenthesis.  It can be escaped, and
it can stand where a brace behind a word edge should be read as a count; then the
pattern cannot be read on.
-/

set_option autoImplicit false

namespace Highlighter.PatternText

section Escapes

variable {flags : Flags}

/-! ## Codes -/

theorem readDigits_paren (flags : Flags) (code digits : Nat) :
    readDigits flags code (digits + 1) [')'] = .error .badCode := by
  rw [readDigits, skip_one]
  rfl

theorem readDigits_agrees (digits : Nat) : ∀ code text,
    Agrees Spent text.length (readDigits flags code digits (text ++ [')']))
      (readDigits flags code digits text) := by
  induction digits with
  | zero =>
    intro code text
    unfold readDigits
    cases ofCode? code with
    | error cause => exact .failed cause _
    | ok c => exact skip_agrees c flags (Nat.le_refl _)
  | succ digits inductionHypothesis =>
    intro code text
    unfold readDigits
    rcases skip_cases flags text with ⟨c, rest, alone, whole, shorter⟩ | ⟨-, whole⟩ | ⟨-, whole⟩
    · rw [alone, whole]
      dsimp only
      cases Hex.digit? c with
      | none => exact .failed _ _
      | some digit =>
        exact (inductionHypothesis _ rest).mono (Nat.le_of_lt shorter)
    · rw [whole]
      exact .failed _ _
    · rw [whole]
      exact .failed _ _

theorem readBraced_agrees (fuel : Nat) : ∀ code text enough, text.length < enough →
    Agrees Spent text.length (readBraced flags code fuel (text ++ [')']))
      (readBraced flags code enough text) := by
  induction fuel with
  | zero => exact fun _ _ _ _ => .failed _ _
  | succ fuel inductionHypothesis =>
    intro code text enough fits
    obtain ⟨enough, rfl⟩ := Nat.exists_eq_succ_of_ne_zero (Nat.ne_of_gt (Nat.zero_lt_of_lt fits))
    unfold readBraced
    rcases skip_cases flags text with ⟨c, rest, alone, whole, shorter⟩ | ⟨-, whole⟩ | ⟨-, whole⟩
    · rw [alone, whole]
      dsimp only
      split
      · cases code with
        | none => exact .failed _ _
        | some code =>
          dsimp only
          cases ofCode? code with
          | error cause => exact .failed cause _
          | ok c => exact skip_agrees c flags (Nat.le_of_lt shorter)
      · cases Hex.digit? c with
        | none => exact .failed _ _
        | some digit =>
          exact (inductionHypothesis _ rest enough (by omega)).mono (Nat.le_of_lt shorter)
    · rw [whole]
      exact .failed _ _
    · rw [whole]
      exact .failed _ _

theorem readCode_agrees (digits : Nat) (text : List Char) :
    Agrees Spent text.length (readCode flags (digits + 1) (text ++ [')']))
      (readCode flags (digits + 1) text) := by
  unfold readCode
  rcases skip_cases flags text with ⟨c, rest, alone, whole, shorter⟩ | ⟨-, whole⟩ | ⟨-, whole⟩
  · rw [alone, whole]
    dsimp only
    split
    · exact (readBraced_agrees _ none rest _ (Nat.lt_succ_self _)).mono (Nat.le_of_lt shorter)
    · exact (readDigits_agrees _ 0 (c :: rest)).mono shorter
  · rw [whole]
    dsimp only
    rw [if_neg (by decide)]
    rw [readDigits_paren]
    exact .failed _ _
  · rw [whole]
    exact .failed _ _

/-! ## Counts -/

theorem dropWhile_paren {accepts : Char → Bool} (stops : accepts ')' = false) (text : List Char) :
    (text ++ [')']).dropWhile accepts = text.dropWhile accepts ++ [')'] := by
  induction text with
  | nil => simp [stops]
  | cons c text inductionHypothesis =>
    rw [List.cons_append, List.dropWhile_cons, List.dropWhile_cons, inductionHypothesis]
    split <;> rfl

theorem length_dropWhile_le (accepts : Char → Bool) (text : List Char) :
    (text.dropWhile accepts).length ≤ text.length :=
  (List.dropWhile_sublist accepts).length_le

theorem readCountDigits_nil (value : Option Nat) (fuel : Nat) :
    readCountDigits flags value fuel [] = (value, []) := by
  cases fuel <;> rfl

theorem readCountDigits_agrees (flags : Flags) (fuel : Nat) : ∀ value text enough,
    text.length + 1 < fuel → text.length < enough →
      Agrees Spent text.length (.ok (readCountDigits flags value fuel (text ++ [')'])))
        (.ok (readCountDigits flags value enough text)) := by
  induction fuel with
  | zero => exact fun _ _ _ fits => absurd fits (Nat.not_lt_zero _)
  | succ fuel inductionHypothesis =>
    intro value text enough fits enoughFits
    obtain ⟨enough, rfl⟩ :=
      Nat.exists_eq_succ_of_ne_zero (Nat.ne_of_gt (Nat.zero_lt_of_lt enoughFits))
    cases text with
    | nil => exact .same value (Nat.le_refl _)
    | cons c rest =>
      rw [List.length_cons] at fits enoughFits ⊢
      have shorter := skip_length flags rest
      rw [List.cons_append]
      unfold readCountDigits
      dsimp only
      split
      · rcases skip_paren flags rest with same | ⟨whole, -⟩
        · rw [same]
          exact (inductionHypothesis _ _ enough (by omega) (by omega)).mono (by omega)
        · rw [whole, readCountDigits_nil]
          exact .nothing _ _
      · rw [← List.cons_append, dropWhile_paren (by decide)]
        exact .same value (length_dropWhile_le isBlank (c :: rest))

theorem readCount_agrees (flags : Flags) (text : List Char) :
    Agrees Spent text.length (readCount flags (text ++ [')'])) (readCount flags text) := by
  have digits := readCountDigits_agrees flags
    ((text.dropWhile isBlank ++ [')']).length + 1) none (text.dropWhile isBlank)
    ((text.dropWhile isBlank).length + 1) (by simp) (Nat.lt_succ_self _)
  have shorter := length_dropWhile_le isBlank text
  unfold readCount
  rw [dropWhile_paren (by decide)]
  dsimp only
  generalize readCountDigits flags none _ (text.dropWhile isBlank ++ [')']) = result at digits ⊢
  obtain ⟨value, rest⟩ := result
  cases value with
  | none => exact .failed _ _
  | some value =>
    dsimp only
    split
    · rename_i small
      rcases digits (some value) rest rfl with rfl | ⟨left, rfl, bounded, alone⟩
      · rw [skip_nil]
        exact .nothing value _
      · rw [Except.ok.inj alone]
        dsimp only
        rw [if_pos small]
        exact skip_agrees value flags (Nat.le_trans bounded shorter)
    · exact .failed _ _

theorem readCount_skip_agrees (flags : Flags) (text : List Char) :
    Agrees Spent text.length (readCount flags (skip flags (text ++ [')'])))
      (readCount flags (skip flags text)) := by
  rcases skip_paren flags text with same | ⟨whole, -⟩
  · rw [same]
    exact (readCount_agrees flags (skip flags text)).mono (skip_length flags text)
  · rw [whole]
    exact .failed _ _

/-- The greater bound of a repetition and the closing brace. -/
def readUpper (flags : Flags) (least : Nat) (text : List Char) :
    Except PatternError (Nat × Option Nat × List Char) :=
  match skip flags text with
  | [] => throw .unclosedCount
  | '\x7d' :: rest => return (least, none, skip flags rest)
  | rest => do
    match ← readCount flags rest with
    | (most, '\x7d' :: rest) =>
      if least ≤ most then return (least, some most, skip flags rest) else throw .badCount
    | _ => throw .unclosedCount

theorem readBounds_eq (flags : Flags) (text : List Char) : readBounds flags text =
    readCount flags (skip flags text) >>= fun (least, rest) =>
      match rest with
      | '\x7d' :: rest => return (least, some least, skip flags rest)
      | ',' :: rest => readUpper flags least rest
      | _ => throw .unclosedCount := rfl

theorem readUpper_agrees (flags : Flags) (least : Nat) (text : List Char) :
    Agrees Spent text.length
      ((readUpper flags least (text ++ [')'])).map regroup)
      ((readUpper flags least text).map regroup) := by
  unfold readUpper
  rcases skip_cases flags text with ⟨c, rest, alone, whole, shorter⟩ | ⟨-, whole⟩ | ⟨-, whole⟩
  · rw [alone, whole]
    split
    · rename_i none
      cases none
    · rename_i left same
      obtain ⟨rfl, rfl⟩ := List.cons.inj same
      exact skip_agrees _ flags (Nat.le_of_lt shorter)
    · rename_i other
      split
      · rename_i none
        cases none
      · rename_i left same
        obtain ⟨rfl, rfl⟩ := List.cons.inj same
        exact (other _ rfl).elim
      · rw [map_bind, map_bind]
        refine (readCount_agrees flags (c :: rest)).bind ?_ fun most left bounded => ?_
        · rintro most rest rfl alone
          exact .failed _ _
        · rw [List.length_cons] at bounded
          cases left with
          | nil => exact .failed _ _
          | cons d left =>
            rw [List.length_cons] at bounded
            rw [List.cons_append]
            split
            · rename_i rest same
              cases same
              simp only
              split
              · exact skip_agrees _ flags (by omega)
              · exact .failed _ _
            · exact .failed _ _
  · rw [whole]
    exact .failed _ _
  · rw [whole]
    exact .failed _ _

theorem readBounds_agrees (flags : Flags) (text : List Char) :
    Agrees Spent text.length
      ((readBounds flags (text ++ [')'])).map regroup)
      ((readBounds flags text).map regroup) := by
  rw [readBounds_eq, readBounds_eq, map_bind, map_bind]
  refine (readCount_skip_agrees flags text).bind ?_ fun least left bounded => ?_
  · rintro least rest rfl alone
    exact .failed _ _
  · cases left with
    | nil => exact .failed _ _
    | cons c left =>
      rw [List.length_cons] at bounded
      rw [List.cons_append]
      dsimp only
      split
      · rename_i rest same
        obtain ⟨rfl, rfl⟩ := List.cons.inj same
        exact skip_agrees _ flags (Nat.le_of_succ_le bounded)
      · rename_i rest same
        obtain ⟨rfl, rfl⟩ := List.cons.inj same
        exact (readUpper_agrees flags least left).mono (Nat.le_of_succ_le bounded)
      · exact .failed _ _

/-! ## Names and escapes -/

theorem readPropertyName_nil (flags : Flags) (name : List Char) (fuel : Nat) :
    readPropertyName flags name fuel [] = .error .badProperty := by
  cases fuel with
  | zero => rfl
  | succ fuel =>
    rw [readPropertyName, skip_nil]

theorem readPropertyName_agrees (fuel : Nat) : ∀ name text enough, text.length < enough →
    Agrees Spent text.length (readPropertyName flags name fuel (text ++ [')']))
      (readPropertyName flags name enough text) := by
  induction fuel with
  | zero => exact fun _ _ _ _ => .failed _ _
  | succ fuel inductionHypothesis =>
    intro name text enough fits
    obtain ⟨enough, rfl⟩ := Nat.exists_eq_succ_of_ne_zero (Nat.ne_of_gt (Nat.zero_lt_of_lt fits))
    unfold readPropertyName
    rcases skip_cases flags text with ⟨c, rest, alone, whole, shorter⟩ | ⟨-, whole⟩ | ⟨-, whole⟩
    · rw [alone, whole]
      dsimp only
      split
      · exact .same _ (Nat.le_of_lt shorter)
      · exact (inductionHypothesis _ rest enough (by omega)).mono (Nat.le_of_lt shorter)
    · rw [whole]
      dsimp only
      rw [if_neg (by decide), readPropertyName_nil]
      exact .failed _ _
    · rw [whole]
      exact .failed _ _

theorem readProperty_agrees (flags : Flags) (negated : Bool) (text : List Char) :
    Agrees Spent text.length (readProperty flags negated (text ++ [')']))
      (readProperty flags negated text) := by
  unfold readProperty
  rcases skip_cases flags text with ⟨c, rest, alone, whole, shorter⟩ | ⟨-, whole⟩ | ⟨-, whole⟩
  · rw [alone, whole]
    split
    · exact .failed _ _
    · rename_i left same
      obtain ⟨rfl, rfl⟩ := List.cons.inj same
      refine ((readPropertyName_agrees _ [] rest _ (Nat.lt_succ_self _)).mono
        (Nat.le_of_lt shorter)).bind ?_ fun name left bounded => ?_
      · rintro name rest rfl alone
        exact .guarded_nothing _ id _
      · exact .guarded _ id bounded
    · exact .failed _ _
    · rename_i brace backslash same
      obtain ⟨rfl, rfl⟩ := List.cons.inj same
      split
      · rename_i none
        cases none
      · rename_i left same
        cases same
        exact (brace rfl).elim
      · rename_i left same
        cases same
        exact (backslash rfl).elim
      · rename_i same
        cases same
        exact .guarded _ id (Nat.le_of_lt shorter)
  · rw [whole]
    exact .guarded_nothing _ id _
  · rw [whole]
    exact .failed _ _

theorem readEdgeName_agrees (fuel : Nat) : ∀ name text enough, text.length < enough →
    Agrees Spent text.length (readEdgeName flags name fuel (text ++ [')']))
      (readEdgeName flags name enough text) := by
  induction fuel with
  | zero => exact fun _ _ _ _ => .failed _ _
  | succ fuel inductionHypothesis =>
    intro name text enough fits
    obtain ⟨enough, rfl⟩ := Nat.exists_eq_succ_of_ne_zero (Nat.ne_of_gt (Nat.zero_lt_of_lt fits))
    unfold readEdgeName
    rcases skip_cases flags text with ⟨c, rest, alone, whole, shorter⟩ | ⟨-, whole⟩ | ⟨-, whole⟩
    · rw [alone, whole]
      dsimp only
      split
      · exact (inductionHypothesis _ rest enough (by omega)).mono (Nat.le_of_lt shorter)
      · split
        · exact .guarded _ id (Nat.le_of_lt shorter)
        · exact .failed _ _
    · rw [whole]
      exact .failed _ _
    · rw [whole]
      exact .failed _ _

/-- Nothing is left, or a brace that begins no count, because it has nothing behind it but white
space and the parenthesis. -/
def SpentOrBrace (flags : Flags) (rest : List Char) : Prop :=
  rest = [] ∨ ∃ more, rest = '\x7b' :: more ∧ skip flags more = [')']

theorem readEdge_agrees (flags : Flags) (text : List Char) :
    Agrees (fun _ => SpentOrBrace flags) text.length (readEdge flags (text ++ [')']))
      (readEdge flags text) := by
  cases text with
  | nil => exact .same _ (Nat.le_refl _)
  | cons c text =>
    rw [List.cons_append]
    unfold readEdge
    by_cases brace : c = '\x7b'
    · subst brace
      simp only
      rcases skip_cases flags text with ⟨d, more, alone, whole, shorter⟩ | ⟨-, whole⟩ | ⟨-, whole⟩
      · rw [alone, whole]
        dsimp only
        split
        · exact ((readEdgeName_agrees _ [] (d :: more) _ (by simp)).mono
            (Nat.le_succ_of_le shorter)).weaken fun _ _ => .inl
        · exact .same _ (Nat.le_refl _)
      · rw [whole]
        exact .ended _ (.inr ⟨_, rfl, whole⟩) _
      · rw [whole]
        exact .failed _ _
    · split
      · rename_i same
        exact absurd (List.cons.inj same).1 brace
      · split
        · rename_i same
          exact absurd (List.cons.inj same).1 brace
        · exact .same _ (Nat.le_refl _)

/-- What a reader of an escape leaves that cannot be read on: nothing, or the brace behind a word
edge. -/
def StuckEscape (flags : Flags) (escape : Escape) (rest : List Char) : Prop :=
  rest = [] ∨ (∃ edge, escape = .check edge) ∧ SpentOrBrace flags rest

theorem skip_head?_paren (flags : Flags) (text : List Char) :
    ((skip flags (text ++ [')'])).head? != some '\x7b')
      = ((skip flags text).head? != some '\x7b') := by
  rcases skip_cases flags text with ⟨c, rest, alone, whole, -⟩ | ⟨alone, whole⟩ | ⟨alone, whole⟩
  · rw [alone, whole]
    rfl
  · rw [alone, whole]
    rfl
  · rw [alone, whole]

theorem readEscape_agrees (flags : Flags) (text : List Char) :
    Agrees (StuckEscape flags) (text.length - 1) (readEscape flags (text ++ [')']))
      (readEscape flags text) := by
  cases text with
  | nil => exact .ended _ (.inl rfl) _
  | cons c text =>
    rw [List.cons_append, List.length_cons, Nat.add_sub_cancel]
    unfold readEscape
    dsimp only
    split
    -- Most escapes are a letter that stands for something, whatever comes after it.
    all_goals try exact .same _ (Nat.le_refl _)
    all_goals try exact .guarded _ _ (Nat.le_refl _)
    -- Codes of two, four and eight digits, word edges, properties, and what stands for itself.
    · refine (readCode_agrees 1 text).bind ?_ fun code left bounded => ?_
      · rintro code rest rfl alone
        split
        · exact .failed _ _
        · exact .ended _ (.inl rfl) _
      · rw [skip_head?_paren]
        split
        · exact .failed _ _
        · exact .same _ bounded
    · exact (readCode_agrees 3 text).map Escape.literal fun _ _ => .inl
    · exact (readCode_agrees 7 text).map Escape.literal fun _ _ => .inl
    · exact (readEdge_agrees flags text).map Escape.check fun edge rest isStuck =>
        .inr ⟨⟨edge, rfl⟩, isStuck⟩
    · exact (readProperty_agrees flags false text).map Escape.set fun _ _ => .inl
    · exact (readProperty_agrees flags true text).map Escape.set fun _ _ => .inl
    · split
      · exact .failed _ _
      · split
        · exact .same _ (Nat.le_refl _)
        · exact .failed _ _

end Escapes

end Highlighter.PatternText
