import Highlighter.Proofs.Pattern.Trailing.Escape

/-!
# Classes before a trailing parenthesis

In a class a closing parenthesis stands for itself, and a class needs its bracket.  So a
class that is closed is closed before the parenthesis.
-/

set_option autoImplicit false

namespace Highlighter.PatternText

section Classes

variable {flags : Flags} {text : List Char}

/-! ## Named classes -/

theorem openClass_plain {c : Char} {rest : List Char} (front : skip flags text = c :: rest)
    (noCaret : c ≠ '^') : openClass flags text = (.fresh false, c :: rest) := by
  unfold openClass
  rw [front]
  split
  · rename_i same
    exact absurd (List.cons.inj same).1 noCaret
  · rfl

theorem openClass_paren (flags : Flags) (text : List Char) :
    (openClass flags (text ++ [')'])).1 = (openClass flags text).1 ∧
      ((openClass flags (text ++ [')'])).2 = (openClass flags text).2 ++ [')'] ∨
        (openClass flags (text ++ [')'])).2 = []) ∧
      (openClass flags text).2.length ≤ text.length := by
  rcases skip_cases flags text with ⟨c, rest, alone, whole, shorter⟩ | ⟨alone, whole⟩ |
    ⟨alone, whole⟩
  · by_cases caret : c = '^'
    · subst caret
      unfold openClass
      rw [alone, whole]
      exact ⟨rfl, .inl rfl, Nat.le_of_lt shorter⟩
    · rw [openClass_plain alone caret, openClass_plain whole caret]
      exact ⟨rfl, .inl rfl, shorter⟩
  · unfold openClass
    rw [alone, whole]
    exact ⟨rfl, .inl rfl, Nat.zero_le _⟩
  · unfold openClass
    rw [alone, whole]
    exact ⟨rfl, .inr rfl, Nat.zero_le _⟩

theorem dropWhile_colon (text : List Char) :
    ((text ++ [')']).dropWhile (· != ':') = text.dropWhile (· != ':') ++ [')'] ∧
        (text ++ [')']).takeWhile (· != ':') = text.takeWhile (· != ':')) ∨
      ((text ++ [')']).dropWhile (· != ':') = [] ∧ text.dropWhile (· != ':') = []) := by
  induction text with
  | nil => exact .inr ⟨rfl, rfl⟩
  | cons c text inductionHypothesis =>
    by_cases colon : c = ':'
    · subst colon
      exact .inl ⟨rfl, rfl⟩
    · simpa [colon] using inductionHypothesis

/-- A named class after the caret that negates it. -/
def namedRest? (negated : Bool) (text : List Char) : Option (CharSet × Bool × List Char) :=
  match text.dropWhile (· != ':') with
  | ':' :: ']' :: after =>
    (CharSet.ascii? (String.ofList (text.takeWhile (· != ':')))).map fun set =>
      (set, negated, after)
  | _ => none

theorem namedClass?_other {c : Char} (noColon : c ≠ ':') (text : List Char) :
    namedClass? (c :: text) = none := by
  unfold namedClass?
  split
  · rename_i same
    exact absurd (List.cons.inj same).1 noColon
  · rfl

theorem namedClass?_plain {c : Char} (noCaret : c ≠ '^') (text : List Char) :
    namedClass? (':' :: c :: text) = namedRest? false (c :: text) := by
  simp only [namedClass?, List.cons.injEq, noCaret, false_and, imp_self, implies_true]
  rfl

theorem namedRest?_paren (negated : Bool) (text : List Char) : namedRest? negated (text ++ [')'])
    = (namedRest? negated text).map fun (set, negated, rest) => (set, negated, rest ++ [')']) := by
  unfold namedRest?
  rcases dropWhile_colon text with ⟨dropped, taken⟩ | ⟨whole, alone⟩
  · rw [dropped, taken]
    cases text.dropWhile (· != ':') with
    | nil => rfl
    | cons c rest =>
      cases rest with
      | nil =>
        split
        · rename_i same
          simp at same
        · split
          · rename_i same
            cases same
          · rfl
      | cons d rest =>
        rw [List.cons_append, List.cons_append]
        split
        · rename_i after same
          cases same
          simp only
          rw [Option.map_map]
          rfl
        · rename_i other
          split
          · rename_i same
            cases same
            exact (other _ rfl).elim
          · rfl
  · rw [whole, alone]
    rfl

theorem namedClass?_paren (text : List Char) : namedClass? (text ++ [')'])
    = (namedClass? text).map fun (set, negated, rest) => (set, negated, rest ++ [')']) := by
  cases text with
  | nil => rfl
  | cons c text =>
    by_cases colon : c = ':'
    · subst colon
      cases text with
      | nil => rfl
      | cons d text =>
        by_cases caret : d = '^'
        · subst caret
          exact namedRest?_paren true text
        · rw [List.cons_append, List.cons_append, namedClass?_plain caret, namedClass?_plain caret]
          exact namedRest?_paren false (d :: text)
    · rw [List.cons_append, namedClass?_other colon, namedClass?_other colon]
      rfl

theorem namedRest?_length {text rest : List Char} {set : CharSet} {negated result : Bool}
    (named : namedRest? negated text = some (set, result, rest)) : rest.length ≤ text.length := by
  unfold namedRest? at named
  split at named
  · rename_i after dropped
    have shorter := length_dropWhile_le (· != ':') text
    obtain ⟨own, -, same⟩ := Option.map_eq_some_iff.mp named
    cases same
    rw [dropped, List.length_cons, List.length_cons] at shorter
    omega
  · cases named

theorem namedClass?_length {text rest : List Char} {set : CharSet} {negated : Bool}
    (named : namedClass? text = some (set, negated, rest)) : rest.length ≤ text.length := by
  cases text with
  | nil => cases named
  | cons c text =>
    by_cases colon : c = ':'
    · subst colon
      cases text with
      | nil => cases named
      | cons d text =>
        by_cases caret : d = '^'
        · subst caret
          change namedRest? true text = some (set, negated, rest) at named
          exact Nat.le_succ_of_le (Nat.le_succ_of_le (namedRest?_length named))
        · rw [namedClass?_plain caret] at named
          exact Nat.le_succ_of_le (namedRest?_length named)
    · rw [namedClass?_other colon] at named
      cases named

/-! ## Members and ranges -/

theorem readMember_agrees (flags : Flags) (c : Char) (text : List Char) :
    Agrees (StuckEscape flags) text.length (readMember flags (c :: (text ++ [')'])))
      (readMember flags (c :: text)) := by
  by_cases backslash : c = '\\'
  · subst backslash
    exact (readEscape_agrees flags text).mono (Nat.sub_le _ _)
  · have plain : ∀ rest, readMember flags (c :: rest) = .ok (.literal c, rest) := by
      intro rest
      unfold readMember
      split
      · rename_i none
        cases none
      · rename_i same
        exact absurd (List.cons.inj same).1 backslash
      · rename_i same
        cases same
        rfl
    rw [plain, plain]
    exact .same _ (Nat.le_refl _)

/-- Nothing is left of a class, or only the parenthesis, which cannot close it. -/
def SpentOrParen {α : Type} (_ : α) (rest : List Char) : Prop :=
  rest = [] ∨ rest = [')']

/-- The rest of a range from a member of a class on. -/
def readUpperMember (flags : Flags) (member : Escape) (text : List Char) :
    Except PatternError (CharSet × List Char) :=
  match skip flags text with
  | [] => throw .unclosedClass
  | '-' :: more =>
    match skip flags more with
    | [] => throw .unclosedClass
    | ']' :: _ => return (← memberSet flags member, '-' :: more)
    | '-' :: _ => return (← memberSet flags member, '-' :: more)
    | upper => do
      match member, ← readMember flags upper with
      | .literal low, (.literal high, rest) => return (← rangeSet flags low high, rest)
      | _, _ => throw .badRange
  | rest => return (← memberSet flags member, rest)

theorem readRange_eq (flags : Flags) (text : List Char) : readRange flags text =
    readMember flags text >>= fun (member, rest) => readUpperMember flags member rest := rfl

theorem readUpperMember_agrees (flags : Flags) (member : Escape) (text : List Char) :
    Agrees SpentOrParen text.length (readUpperMember flags member (text ++ [')']))
      (readUpperMember flags member text) := by
  have ended : ∀ low high alone, Agrees SpentOrParen text.length
      (rangeSet flags low high >>= fun set => .ok (set, [])) alone := fun low high alone =>
    (Agrees.guarded_nothing _ id alone).weaken fun _ _ => .inl
  unfold readUpperMember
  rcases skip_cases flags text with ⟨c, rest, alone, whole, shorter⟩ | ⟨-, whole⟩ | ⟨-, whole⟩
  · rw [alone, whole]
    have bounded : (c :: rest).length ≤ text.length := shorter
    by_cases hyphen : c = '-'
    · subst hyphen
      simp only
      rcases skip_cases flags rest with ⟨d, more, alone, whole, less⟩ | ⟨-, whole⟩ | ⟨-, whole⟩
      · rw [alone, whole]
        split
        · rename_i none
          cases none
        · rename_i same
          cases same
          exact .guarded _ id bounded
        · rename_i same
          cases same
          exact .guarded _ id bounded
        · rename_i bracket again
          split
          · rename_i none
            cases none
          · rename_i same
            cases same
            exact (bracket _ rfl).elim
          · rename_i same
            cases same
            exact (again _ rfl).elim
          · refine (readMember_agrees flags d more).bind ?_ fun high left fits => ?_
            · rintro high rest isStuck alone
              cases member with
              | literal low =>
                cases high with
                | literal high =>
                  rcases isStuck with rfl | ⟨⟨edge, check⟩, -⟩
                  · exact ended low high _
                  · cases check
                | set => exact .failed _ _
                | check => exact .failed _ _
              | set => exact .failed _ _
              | check => exact .failed _ _
            · cases member with
              | literal low =>
                cases high with
                | literal high => exact .guarded _ id (by omega)
                | set => exact .failed _ _
                | check => exact .failed _ _
              | set => exact .failed _ _
              | check => exact .failed _ _
      · rw [whole]
        cases member with
        | literal low => exact ended low ')' _
        | set => exact .failed _ _
        | check => exact .failed _ _
      · rw [whole]
        exact .failed _ _
    · split
      · rename_i none
        cases none
      · rename_i same
        exact absurd (List.cons.inj same).1 hyphen
      · split
        · rename_i none
          cases none
        · rename_i same
          exact absurd (List.cons.inj same).1 hyphen
        · exact .guarded _ id bounded
  · rw [whole]
    change Agrees _ _ (memberSet flags member >>= fun set => .ok (set, [')'])) _
    cases memberSet flags member with
    | error cause => exact .failed _ _
    | ok set => exact .ended set (.inr rfl) _
  · rw [whole]
    exact .failed _ _

theorem readUpperMember_check (flags : Flags) (edge : Assertion) (text : List Char) :
    ∃ cause, readUpperMember flags (.check edge) text = .error cause := by
  unfold readUpperMember
  split
  · exact ⟨_, rfl⟩
  · split
    · exact ⟨_, rfl⟩
    · exact ⟨_, rfl⟩
    · exact ⟨_, rfl⟩
    · cases readMember flags _ with
      | error cause => exact ⟨_, rfl⟩
      | ok value => exact ⟨_, rfl⟩
  · exact ⟨_, rfl⟩

theorem readRange_agrees (flags : Flags) (c : Char) (text : List Char) :
    Agrees SpentOrParen text.length (readRange flags (c :: (text ++ [')'])))
      (readRange flags (c :: text)) := by
  rw [readRange_eq, readRange_eq]
  refine (readMember_agrees flags c text).bind ?_ fun member left bounded =>
    (readUpperMember_agrees flags member left).mono bounded
  rintro member rest (rfl | ⟨⟨edge, rfl⟩, -⟩) alone
  · dsimp only
    rw [readUpperMember, skip_nil]
    exact .failed _ _
  · obtain ⟨cause, fails⟩ := readUpperMember_check flags edge rest
    dsimp only
    rw [fails]
    exact .failed _ _

/-! ## Whole classes -/

theorem readClass_nil (cls : OpenClass) (outer : List OpenClass) (fuel : Nat) :
    readClass flags cls outer fuel [] = .error .unclosedClass := by
  cases fuel with
  | zero => rfl
  | succ fuel => rw [readClass, skip_nil]

theorem readClass_paren (cls : OpenClass) (outer : List OpenClass) (fuel : Nat) :
    readClass flags cls outer fuel [')'] = .error .unclosedClass := by
  have unfinished : readRange flags [')'] = .error .unclosedClass := by
    rw [readRange_eq]
    change readUpperMember flags (.literal ')') [] = _
    rw [readUpperMember, skip_nil]
    rfl
  cases fuel with
  | zero => rfl
  | succ fuel =>
    rw [readClass, skip_one]
    simp [unfinished]

/-- An operation, a member or a range, and the rest of the class. -/
def readClassItem (flags : Flags) (opened : OpenClass) (outer : List OpenClass) (fuel : Nat)
    (c : Char) (rest : List Char) : Except PatternError (CharSet × Nat × List Char) :=
  match c, rest with
  | '&', '&' :: rest => readClass flags (opened.operate flags .inter) outer fuel rest
  | '-', '-' :: rest => readClass flags (opened.operate flags .diff) outer fuel rest
  | '~', '~' :: rest => readClass flags (opened.operate flags .symmDiff) outer fuel rest
  | _, _ =>
    match readRange flags (c :: rest) with
    | .ok (set, rest) => readClass flags (opened.add set 0) outer fuel rest
    | .error cause => .error cause

theorem readClass_other {c : Char} {rest : List Char} (front : skip flags text = c :: rest)
    (noOpening : c ≠ '[') (noClosing : c ≠ ']') (cls : OpenClass) (outer : List OpenClass)
    (fuel : Nat) : readClass flags cls outer (fuel + 1) text =
      if cls.isFresh && c == '-' then readClass flags (cls.add (.single '-') 0) outer fuel rest
      else readClassItem flags { cls with isFresh := false } outer fuel c rest := by
  rw [readClass, front]
  split
  · rename_i none
    cases none
  · rename_i same
    exact absurd (List.cons.inj same).1 noOpening
  · rename_i same
    exact absurd (List.cons.inj same).1 noClosing
  · rename_i same
    cases same
    rfl

/-- Whether `c` and what comes after it are an operation, which doubles its sign. -/
def IsOperation (c : Char) (rest : List Char) : Prop :=
  (c = '&' ∨ c = '-' ∨ c = '~') ∧ rest.head? = some c

theorem readClassItem_range {c : Char} {rest : List Char} (noOperation : ¬IsOperation c rest)
    (opened : OpenClass) (outer : List OpenClass) (fuel : Nat) :
    readClassItem flags opened outer fuel c rest =
      match readRange flags (c :: rest) with
      | .ok (set, rest) => readClass flags (opened.add set 0) outer fuel rest
      | .error cause => .error cause := by
  unfold readClassItem
  split
  · exact absurd ⟨.inl rfl, rfl⟩ noOperation
  · exact absurd ⟨.inr (.inl rfl), rfl⟩ noOperation
  · exact absurd ⟨.inr (.inr rfl), rfl⟩ noOperation
  · rfl

theorem isOperation_paren {c : Char} {rest : List Char} (operation : IsOperation c (rest ++ [')'])) :
    IsOperation c rest := by
  obtain ⟨sign, again⟩ := operation
  refine ⟨sign, ?_⟩
  cases rest with
  | nil =>
    cases again
    simp at sign
  | cons d rest => exact again

theorem readClassItem_agrees {fuel enough : Nat} {c : Char} {rest : List Char}
    (shorter : rest.length < text.length)
    (further : ∀ cls outer left, left.length < text.length →
      Agrees Spent text.length ((readClass flags cls outer fuel (left ++ [')'])).map regroup)
        ((readClass flags cls outer enough left).map regroup))
    (opened : OpenClass) (outer : List OpenClass) :
    Agrees Spent text.length
      ((readClassItem flags opened outer fuel c (rest ++ [')'])).map regroup)
      ((readClassItem flags opened outer enough c rest).map regroup) := by
  by_cases operation : IsOperation c rest
  · obtain ⟨sign, again⟩ := operation
    obtain ⟨left, rfl⟩ := List.head?_eq_some_iff.mp again
    have within : left.length < text.length := Nat.lt_of_succ_lt shorter
    rcases sign with rfl | rfl | rfl
    · exact further _ outer left within
    · exact further _ outer left within
    · exact further _ outer left within
  · rw [readClassItem_range fun whole => operation (isOperation_paren whole),
      readClassItem_range operation]
    have range := readRange_agrees flags c rest
    cases read : readRange flags (c :: (rest ++ [')'])) with
    | error cause => exact .failed _ _
    | ok found =>
      obtain ⟨set, left⟩ := found
      dsimp only
      rcases range set left read with (rfl | rfl) | ⟨left, rfl, bounded, alike⟩
      · rw [readClass_nil]
        exact .failed _ _
      · rw [readClass_paren]
        exact .failed _ _
      · rw [alike]
        exact further _ outer left (by omega)

theorem readClass_agrees (fuel : Nat) : ∀ cls outer text enough, text.length < enough →
    Agrees Spent text.length ((readClass flags cls outer fuel (text ++ [')'])).map regroup)
      ((readClass flags cls outer enough text).map regroup) := by
  induction fuel with
  | zero => exact fun _ _ _ _ _ => .failed _ _
  | succ fuel inductionHypothesis =>
    intro cls outer text enough fits
    obtain ⟨enough, rfl⟩ := Nat.exists_eq_succ_of_ne_zero (Nat.ne_of_gt (Nat.zero_lt_of_lt fits))
    have further : ∀ cls outer left, left.length < text.length →
        Agrees Spent text.length ((readClass flags cls outer fuel (left ++ [')'])).map regroup)
          ((readClass flags cls outer enough left).map regroup) := by
      intro cls outer left shorter
      exact (inductionHypothesis cls outer left enough (by omega)).mono (Nat.le_of_lt shorter)
    rcases skip_cases flags text with ⟨c, rest, alone, whole, shorter⟩ | ⟨-, whole⟩ | ⟨-, whole⟩
    · by_cases opening : c = '['
      · subst opening
        rw [readClass, readClass, alone, whole]
        simp only
        rw [namedClass?_paren]
        cases named : namedClass? rest with
        | some found =>
          obtain ⟨set, negated, left⟩ := found
          have bounded := namedClass?_length named
          dsimp only [Option.map_some]
          cases negatedIf flags negated (folded flags set) with
          | error cause => exact .failed _ _
          | ok set => exact further _ _ left (by omega)
        | none =>
          obtain ⟨sameClass, sameRest, bounded⟩ := openClass_paren flags rest
          dsimp only [Option.map_none]
          rw [sameClass]
          rcases sameRest with same | ended
          · rw [same]
            exact further _ _ _ (by omega)
          · rw [ended, readClass_nil]
            exact .failed _ _
      · by_cases closing : c = ']'
        · subst closing
          rw [readClass, readClass, alone, whole]
          simp only
          split
          · exact further _ _ rest shorter
          · cases cls.close flags with
            | error cause => exact .failed _ _
            | ok set =>
              cases outer with
              | nil => exact .same _ (Nat.le_of_lt shorter)
              | cons around outer => exact further _ _ rest shorter
        · rw [readClass_other whole opening closing, readClass_other alone opening closing]
          split
          · exact further _ _ rest shorter
          · exact readClassItem_agrees shorter further _ outer
    · have same : readClass flags cls outer (fuel + 1) (text ++ [')'])
          = readClass flags cls outer (fuel + 1) [')'] := by
        rw [readClass, readClass, whole, skip_one]
      rw [same, readClass_paren]
      exact .failed _ _
    · unfold readClass
      rw [whole]
      exact .failed _ _

end Classes

end Highlighter.PatternText
