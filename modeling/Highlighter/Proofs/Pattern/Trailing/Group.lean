import Highlighter.Proofs.Pattern.Trailing.Class

/-!
# Groups before a trailing parenthesis

Reading item by item, a pattern text that is followed by a closing parenthesis is read
as the text alone, up to the parenthesis.
-/

set_option autoImplicit false

namespace Highlighter.PatternText

section Groups

variable {state : State} {text : List Char}

/-! ## Names and flags of groups -/

theorem readLazy_paren (text : List Char) :
    readLazy (text ++ [')']) = ((readLazy text).1, (readLazy text).2 ++ [')']) ∧
      (readLazy text).2.length ≤ text.length := by
  unfold readLazy
  cases text with
  | nil => exact ⟨rfl, Nat.le_refl _⟩
  | cons c text =>
    rw [List.cons_append]
    split
    · rename_i same
      cases same
      exact ⟨rfl, Nat.le_succ _⟩
    · rename_i other
      split
      · rename_i same
        cases same
        exact (other _ rfl).elim
      · exact ⟨rfl, Nat.le_refl _⟩

theorem readName_agrees (text : List Char) : ∀ name,
    Agrees Spent text.length (readName name (text ++ [')'])) (readName name text) := by
  induction text with
  | nil =>
    intro name
    unfold readName
    dsimp only [List.nil_append]
    rw [if_neg (by decide)]
    split
    · exact .failed _ _
    · exact .failed _ _
  | cons c text inductionHypothesis =>
    intro name
    rw [List.cons_append, readName, readName]
    split
    · split
      · exact .failed _ _
      · exact .same _ (Nat.le_succ _)
    · split
      · exact (inductionHypothesis _).mono (Nat.le_succ _)
      · exact .failed _ _

theorem readNamedGroup_agrees (state : State) (text : List Char) :
    Agrees Spent text.length (readNamedGroup state (text ++ [')'])) (readNamedGroup state text) := by
  unfold readNamedGroup
  refine (readName_agrees text []).bind ?_ fun name left bounded => ?_
  · rintro name rest rfl alone
    dsimp only
    split
    · exact .failed _ _
    · exact .nothing _ _
  · dsimp only
    split
    · exact .failed _ _
    · exact .same _ bounded

theorem readList_agrees (text : List Char) : ∀ (flags : Flags) seen,
    Agrees Spent text.length ((flags.readList seen (text ++ [')'])).map regroup)
      ((flags.readList seen text).map regroup) := by
  induction text with
  | nil =>
    intro flags seen
    unfold Flags.readList
    dsimp only [List.nil_append]
    rw [if_pos (by decide)]
    split
    · exact .failed _ _
    · rw [if_neg (by decide)]
      split
      · exact .failed _ _
      · exact .nothing _ _
  | cons c text inductionHypothesis =>
    intro flags seen
    have further : ∀ (flags : Flags) seen, Agrees Spent (c :: text).length
        ((flags.readList seen (text ++ [')'])).map regroup)
        ((flags.readList seen text).map regroup) :=
      fun flags seen => (inductionHypothesis flags seen).mono (Nat.le_succ _)
    rw [List.cons_append, Flags.readList, Flags.readList]
    split
    · split
      · exact .failed _ _
      · split
        · exact .same _ (Nat.le_succ _)
        · split
          · exact .failed _ _
          · exact .same _ (Nat.le_succ _)
    · split
      · exact .failed _ _
      · split
        · exact further _ _
        · cases flags.set? c (!seen.contains '-') with
          | error cause => exact .failed _ _
          | ok flags => exact further _ _

/-! ## What follows an opening parenthesis -/

/-- Flags, and the colon or the parenthesis behind them. -/
def readFlags (state : State) (text : List Char) : Except PatternError (State × List Char) := do
  match ← state.flags.readList [] text with
  | (flags, .group, rest) => return (state.openGroup none flags, rest)
  | (flags, .here, rest) =>
    return ({ state with flags, current := state.current.addFlags }, rest)

theorem readFlags_agrees (state : State) (text : List Char) :
    Agrees Spent text.length (readFlags state (text ++ [')'])) (readFlags state text) := by
  refine (readList_agrees text state.flags []).bind_regroup ?_ fun flags ending left bounded => ?_
  · rintro flags ending rest rfl alone
    cases ending with
    | here => exact .nothing _ _
    | group => exact .nothing _ _
  · cases ending with
    | here => exact .same _ bounded
    | group => exact .same _ bounded

theorem readGroup_plain {c : Char} {rest : List Char} (front : skip state.flags text = c :: rest)
    (noMark : c ≠ '?') : readGroup state text = .ok (state.openCapture, c :: rest) := by
  unfold readGroup
  rw [front]
  split
  all_goals first
    | rfl
    | rename_i same
      exact absurd (List.cons.inj same).1 noMark

theorem readGroup_nil (front : skip state.flags text = []) :
    readGroup state text = .ok (state.openCapture, []) := by
  unfold readGroup
  rw [front]

theorem readGroup_named {rest : List Char} (front : skip state.flags text = '?' :: '<' :: rest)
    (noLook : rest.head? ≠ some '=' ∧ rest.head? ≠ some '!') :
    readGroup state text = readNamedGroup state rest := by
  unfold readGroup
  rw [front]
  split
  all_goals try (simp_all; done)
  rename_i named same
  cases same
  exact (named _ rfl).elim

theorem readGroup_flags {rest : List Char} (front : skip state.flags text = '?' :: rest)
    (noLook : rest.head? ≠ some '=' ∧ rest.head? ≠ some '!')
    (noName : rest.head? ≠ some '<' ∧ ∀ more, rest ≠ 'P' :: '<' :: more) :
    readGroup state text = readFlags state rest := by
  unfold readGroup
  rw [front]
  split
  all_goals try (simp_all; done)
  rename_i same
  cases same
  rfl

theorem readGroup_bracket {rest : List Char} (alone : skip state.flags text = '?' :: '<' :: rest)
    (whole : skip state.flags (text ++ [')']) = '?' :: '<' :: (rest ++ [')'])) :
    Agrees Spent rest.length (readGroup state (text ++ [')'])) (readGroup state text) := by
  cases rest with
  | nil =>
    rw [readGroup_named whole (by simp), readGroup_named alone (by simp)]
    exact readNamedGroup_agrees state []
  | cons c rest =>
    by_cases look : c = '=' ∨ c = '!'
    · unfold readGroup
      rw [whole]
      rcases look with rfl | rfl
      · exact .failed _ _
      · exact .failed _ _
    · have noLook : c ≠ '=' ∧ c ≠ '!' := not_or.mp look
      rw [readGroup_named whole (by simpa using noLook), readGroup_named alone (by simpa using noLook)]
      exact readNamedGroup_agrees state (c :: rest)

theorem readGroup_mark {rest : List Char} (alone : skip state.flags text = '?' :: rest)
    (whole : skip state.flags (text ++ [')']) = '?' :: (rest ++ [')'])) :
    Agrees Spent rest.length (readGroup state (text ++ [')'])) (readGroup state text) := by
  cases rest with
  | nil =>
    rw [readGroup_flags whole (by simp) (by simp), readGroup_flags alone (by simp) (by simp)]
    exact readFlags_agrees state []
  | cons c rest =>
    by_cases look : c = '=' ∨ c = '!'
    · unfold readGroup
      rw [whole]
      rcases look with rfl | rfl
      · exact .failed _ _
      · exact .failed _ _
    · by_cases bracket : c = '<'
      · subst bracket
        exact (readGroup_bracket alone whole).mono (Nat.le_succ _)
      · by_cases named : c = 'P' ∧ rest.head? = some '<'
        · obtain ⟨rfl, again⟩ := named
          obtain ⟨left, rfl⟩ := List.head?_eq_some_iff.mp again
          unfold readGroup
          rw [alone, whole]
          exact (readNamedGroup_agrees state left).mono (by simp only [List.length_cons]; omega)
        · have noLook : c ≠ '=' ∧ c ≠ '!' := not_or.mp look
          have noName : ∀ more, c :: rest ≠ 'P' :: '<' :: more := by
            intro more same
            cases same
            exact named ⟨rfl, rfl⟩
          have noNameWhole : ∀ more, c :: (rest ++ [')']) ≠ 'P' :: '<' :: more := by
            intro more same
            obtain ⟨rfl, again⟩ := List.cons.inj same
            obtain ⟨left, rfl, -⟩ := exists_of_append_paren again (by decide)
            exact named ⟨rfl, rfl⟩
          have noBracket : ∀ more : List Char, (c :: more).head? ≠ some '<' :=
            fun more first => bracket (Option.some.inj first)
          rw [readGroup_flags whole (by simpa using noLook) ⟨noBracket _, noNameWhole⟩,
            readGroup_flags alone (by simpa using noLook) ⟨noBracket _, noName⟩]
          exact readFlags_agrees state (c :: rest)

theorem readGroup_agrees (state : State) (text : List Char) :
    Agrees Spent text.length (readGroup state (text ++ [')'])) (readGroup state text) := by
  rcases skip_cases state.flags text with ⟨c, rest, alone, whole, shorter⟩ | ⟨alone, whole⟩ |
    ⟨-, whole⟩
  · by_cases mark : c = '?'
    · subst mark
      exact (readGroup_mark alone whole).mono (Nat.le_of_lt shorter)
    · rw [readGroup_plain whole mark, readGroup_plain alone mark]
      have bounded : (c :: rest).length ≤ text.length := shorter
      exact .same _ bounded
  · rw [readGroup_plain whole (by decide), readGroup_nil alone]
    have bounded : ([] : List Char).length ≤ text.length := Nat.zero_le _
    exact .same _ bounded
  · rw [readGroup_nil whole]
    exact .nothing _ _

/-! ## One item -/

/-- A repetition, lazy if a question mark follows. -/
def readRepetition (state : State) (least : Nat) (most : Option Nat) (text : List Char) :
    Except PatternError (State × List Char) := do
  let (greedy, rest) := readLazy text
  return (← state.repeatLast least most greedy, rest)

theorem readRepetition_agrees (state : State) (least : Nat) (most : Option Nat)
    (text : List Char) : Agrees Spent text.length
      (readRepetition state least most (text ++ [')'])) (readRepetition state least most text) := by
  obtain ⟨same, bounded⟩ := readLazy_paren text
  unfold readRepetition
  rw [same]
  exact .guarded _ id bounded

theorem readOne_agrees (state : State) (c : Char) (rest : List Char) :
    Agrees (fun state => SpentOrBrace state.flags) rest.length
      (readOne state c (rest ++ [')'])) (readOne state c rest) := by
  unfold readOne
  -- In the order of the reader: a group opens or is closed, a branch ends, a class, the
  -- repetitions, an escape, a dot, the two anchors of lines and a character for itself.
  split
  · exact (readGroup_agrees state rest).weaken fun _ _ => .inl
  · exact .guarded _ id (Nat.le_refl _)
  · exact .same _ (Nat.le_refl _)
  · obtain ⟨sameClass, sameRest, bounded⟩ := openClass_paren state.flags rest
    dsimp only
    rw [sameClass]
    rcases sameRest with same | ended
    · rw [same]
      refine (readClass_agrees _ _ _ _ _ (Nat.lt_succ_self _)).bind_regroup ?_
        fun set depth left shorter => .same _ (Nat.le_trans shorter bounded)
      rintro set depth rest rfl alone
      exact .ended _ (.inl rfl) _
    · rw [ended, readClass_nil]
      exact .failed _ _
  · exact (readRepetition_agrees state 0 (some 1) rest).weaken fun _ _ => .inl
  · exact (readRepetition_agrees state 0 none rest).weaken fun _ _ => .inl
  · exact (readRepetition_agrees state 1 none rest).weaken fun _ _ => .inl
  · refine (readBounds_agrees state.flags rest).bind_regroup ?_ fun least most left bounded => ?_
    · rintro least most rest rfl alone
      exact (Agrees.guarded_nothing _ id alone).weaken fun _ _ => .inl
    · exact ((readRepetition_agrees state least most left).mono bounded).weaken fun _ _ => .inl
  · refine (readEscape_agrees state.flags rest).bind ?_ fun escape left bounded => ?_
    · rintro escape rest isStuck alone
      cases escape with
      | check edge => exact .ended (state.add (.check edge) 0) (isStuck.elim .inl And.right) _
      | literal | set =>
        rcases isStuck with rfl | ⟨⟨edge, check⟩, -⟩
        · exact .ended _ (.inl rfl) _
        · cases check
    · have fits := Nat.le_trans bounded (Nat.sub_le _ _)
      cases escape with
      | literal | set | check => exact .same _ fits
  · exact .guarded _ _ (Nat.le_refl _)
  · exact .same _ (Nat.le_refl _)
  · exact .same _ (Nat.le_refl _)
  · exact .same _ (Nat.le_refl _)

end Groups

end Highlighter.PatternText
