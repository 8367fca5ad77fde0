import Highlighter.Pattern.Anchored
import Highlighter.Proofs.Pattern.Trailing.Group

/-!
# Patterns in their wrapper

A pattern text is read between `\A(?:` and a closing parenthesis.  Unless the text
closes a group that it does not open, the group of the wrapper is closed by the last
parenthesis and by no other, and then the pattern matches at the start of a text only.
-/

set_option autoImplicit false

namespace Highlighter.PatternText

/-! ## One more group around -/

/-- The same state with one more group around all others. -/
def State.within (outer : OpenGroup) (state : State) : State :=
  { state with around := state.around ++ [outer] }

section Within

variable (outer : OpenGroup) (state : State)

@[simp] theorem State.within_flags : (state.within outer).flags = state.flags := rfl

@[simp] theorem State.within_dot : (state.within outer).dot = state.dot := rfl

theorem repeatLast_within (least : Nat) (most : Option Nat) (greedy : Bool) :
    (state.within outer).repeatLast least most greedy
      = (state.repeatLast least most greedy).map (·.within outer) := by
  obtain ⟨flags, ⟨number, outerFlags, branches, items, repeatable⟩, around, groups, names⟩ := state
  cases repeatable <;> cases items <;> rfl

theorem readRepetition_within (least : Nat) (most : Option Nat) (text : List Char) :
    readRepetition (state.within outer) least most text
      = (readRepetition state least most text).map fun (state, rest) =>
          (state.within outer, rest) := by
  unfold readRepetition
  obtain ⟨greedy, rest⟩ := readLazy text
  dsimp only
  rw [repeatLast_within]
  cases state.repeatLast least most greedy <;> rfl

theorem readNamedGroup_within (text : List Char) :
    readNamedGroup (state.within outer) text
      = (readNamedGroup state text).map fun (state, rest) => (state.within outer, rest) := by
  unfold readNamedGroup
  cases readName [] text with
  | error cause => rfl
  | ok found =>
    obtain ⟨name, rest⟩ := found
    change (if state.names.contains name = true then _ else _)
      = Except.map _ (if state.names.contains name = true then _ else _)
    split <;> rfl

theorem readFlags_within (text : List Char) : readFlags (state.within outer) text
    = (readFlags state text).map fun (state, rest) => (state.within outer, rest) := by
  unfold readFlags
  rw [State.within_flags]
  cases state.flags.readList [] text with
  | error cause => rfl
  | ok found =>
    obtain ⟨flags, ending, rest⟩ := found
    cases ending <;> rfl

theorem closeGroup_within (opened : state.around ≠ []) :
    closeGroup (state.within outer) = (closeGroup state).map (·.within outer) := by
  obtain ⟨flags, current, around, groups, names⟩ := state
  cases around with
  | nil => exact absurd rfl opened
  | cons group around => rfl

theorem readGroup_within (text : List Char) : readGroup (state.within outer) text
    = (readGroup state text).map fun (state, rest) => (state.within outer, rest) := by
  unfold readGroup
  rw [State.within_flags]
  split
  · rfl
  · rfl
  · rfl
  · rfl
  · exact readNamedGroup_within outer state _
  · exact readNamedGroup_within outer state _
  · exact readFlags_within outer state _
  · rfl

/-- Nothing changes for what is read, unless it closes the outermost group. -/
theorem readOne_within (c : Char) (rest : List Char) (inside : c = ')' → state.around ≠ []) :
    readOne (state.within outer) c rest
      = (readOne state c rest).map fun (state, rest) => (state.within outer, rest) := by
  unfold readOne
  rw [State.within_flags]
  split
  · exact readGroup_within outer state rest
  · rw [closeGroup_within outer state (inside rfl)]
    cases closeGroup state <;> rfl
  · rfl
  · obtain ⟨cls, left⟩ := openClass state.flags rest
    dsimp only
    cases readClass state.flags cls [] (left.length + 1) left <;> rfl
  · exact readRepetition_within outer state 0 (some 1) rest
  · exact readRepetition_within outer state 0 none rest
  · exact readRepetition_within outer state 1 none rest
  · cases readBounds state.flags rest with
    | error cause => rfl
    | ok found => exact readRepetition_within outer state found.1 found.2.1 found.2.2
  · cases readEscape state.flags rest with
    | error cause => rfl
    | ok found =>
      obtain ⟨escape, left⟩ := found
      cases escape <;> rfl
  · rw [State.within_dot]
    cases state.dot <;> rfl
  · rfl
  · rfl
  · rfl

end Within

/-! ## The whole pattern -/

theorem readAll_nil {state : State} (opened : state.around ≠ []) (fuel : Nat) :
    readAll fuel state [] = .error .unclosedGroup := by
  rw [readAll, skip_nil]
  simp [opened]

theorem readAll_stuck (state : State) {rest : List Char} (isStuck : SpentOrBrace state.flags rest)
    (opened : state.around ≠ []) (fuel : Nat) : ∃ cause, readAll fuel state rest = .error cause := by
  rcases isStuck with rfl | ⟨more, rfl, paren⟩
  · exact ⟨_, readAll_nil opened fuel⟩
  · have brace : skip state.flags ('\x7b' :: more) = '\x7b' :: more := by
      unfold skip
      split <;> rfl
    have noCount : readOne state '\x7b' more = .error .badCount := by
      change (readBounds state.flags more >>= _) = _
      rw [readBounds_eq, paren]
      rfl
    rw [readAll, brace]
    cases fuel with
    | zero => exact ⟨_, rfl⟩
    | succ fuel =>
      dsimp only
      rw [noCount]
      exact ⟨_, rfl⟩

theorem readOne_unopened {state : State} (around : state.around = []) (rest : List Char) :
    readOne state ')' rest = .error .unopenedGroup := by
  change (closeGroup state >>= _) = _
  rw [closeGroup, around]
  rfl

/-- The last parenthesis of the wrapper closes its group, and so it ends the pattern. -/
theorem readAll_last {outer : OpenGroup} {state : State} {fuel : Nat} {item : Item}
    (read : (match readOne (state.within outer) ')' [] with
      | .ok (state, rest) => readAll fuel state rest
      | .error cause => .error cause) = .ok item) : ∃ closed, item = (outer.add closed).body := by
  obtain ⟨flags, current, around, groups, names⟩ := state
  cases around with
  | nil =>
    change readAll fuel ⟨current.outerFlags, outer.add current.close, [], groups, names⟩ []
      = .ok item at read
    rw [readAll, skip_nil] at read
    exact ⟨current.close, (Except.ok.inj read).symm⟩
  | cons group around =>
    change readAll fuel ⟨current.outerFlags, group.add current.close, around ++ [outer], groups,
      names⟩ [] = .ok item at read
    rw [readAll_nil (by simp)] at read
    cases read

/-- Either the last parenthesis closes the group of the wrapper, or the text alone cannot be read,
because it closes a group that it does not open. -/
theorem readAll_within (outer : OpenGroup) (fuel : Nat) : ∀ state text enough item,
    text.length ≤ enough → readAll fuel (state.within outer) (text ++ [')']) = .ok item →
      (∃ closed, item = (outer.add closed).body) ∨
        readAll enough state text = .error .unopenedGroup := by
  have opened : ∀ state : State, (state.within outer).around ≠ [] := by
    intro state none
    simp [State.within] at none
  induction fuel with
  | zero =>
    intro state text enough item fits read
    rw [readAll, State.within_flags] at read
    rcases skip_cases state.flags text with ⟨c, rest, -, whole, -⟩ | ⟨-, whole⟩ | ⟨-, whole⟩
    · rw [whole] at read
      cases read
    · rw [whole] at read
      cases read
    · rw [whole] at read
      simp [opened] at read
  | succ fuel inductionHypothesis =>
    intro state text enough item fits read
    rw [readAll, State.within_flags] at read
    rcases skip_cases state.flags text with ⟨c, rest, alone, whole, shorter⟩ | ⟨-, whole⟩ |
      ⟨-, whole⟩
    · rw [whole] at read
      dsimp only at read
      obtain ⟨enough, rfl⟩ := Nat.exists_eq_succ_of_ne_zero (show enough ≠ 0 by omega)
      rw [readAll, alone]
      dsimp only
      by_cases closes : c = ')' ∧ state.around = []
      · obtain ⟨rfl, around⟩ := closes
        rw [readOne_unopened around]
        exact .inr rfl
      · rw [readOne_within outer state c _ fun same around => closes ⟨same, around⟩] at read
        have one := readOne_agrees state c rest
        cases found : readOne state c (rest ++ [')']) with
        | error cause =>
          rw [found] at read
          cases read
        | ok result =>
          obtain ⟨next, left⟩ := result
          rw [found] at read
          change readAll fuel (next.within outer) left = .ok item at read
          rcases one next left found with isStuck | ⟨left, rfl, bounded, alike⟩
          · obtain ⟨cause, fails⟩ := readAll_stuck (next.within outer) isStuck (opened next) fuel
            rw [fails] at read
            cases read
          · rw [alike]
            exact inductionHypothesis next left enough item (by omega) read
    · rw [whole] at read
      exact .inl (readAll_last read)
    · rw [whole] at read
      simp [opened] at read

/-- The group of the wrapper, of which the start of the text is all that has been read. -/
def wrapper : OpenGroup :=
  OpenGroup.add (.fresh none .initial) ⟨.check .textStart, 0⟩

theorem readAll_anchored {fuel : Nat} {text : List Char} {item : Item}
    (read : readAll fuel .initial (Pattern.anchored text) = .ok item) :
    ∃ fuel, readAll fuel (State.initial.within wrapper) (text ++ [')']) = .ok item := by
  cases fuel with
  | zero => cases read
  | succ fuel =>
    cases fuel with
    | zero => cases read
    | succ fuel => exact ⟨fuel, read⟩

theorem body_wrapper (closed : Item) :
    ∃ parts, (wrapper.add closed).body.expr = .ofParts (.check .textStart :: parts) := by
  refine ⟨(closed.expr.parts ++ []).foldr Expr.prepend [], ?_⟩
  have row : (wrapper.add closed).body.expr = .choice [.ofParts
      (.check .textStart :: (closed.expr.parts ++ []).foldr Expr.prepend [])] := rfl
  rw [row]
  -- A row of one part is that part, but neither form is a choice of several branches.
  cases (closed.expr.parts ++ []).foldr Expr.prepend [] <;> rfl

/-- A pattern that is accepted begins with the start of the text, unless the text alone closes a
group that it does not open. -/
theorem read_anchored {text : List Char} {expr : Expr}
    (accepted : read (Pattern.anchored text) = .ok expr) :
    (∃ parts, expr = .ofParts (.check .textStart :: parts)) ∨
      read text = .error .unopenedGroup := by
  unfold PatternText.read at accepted ⊢
  cases whole : readAll (Pattern.anchored text).length .initial (Pattern.anchored text) with
  | error cause =>
    rw [whole] at accepted
    cases accepted
  | ok item =>
    have own : item.expr = expr := by
      rw [whole] at accepted
      change (if item.depth ≤ depthLimit then Except.ok item.expr else
        Except.error PatternError.tooDeep) = _ at accepted
      split at accepted
      · exact Except.ok.inj accepted
      · cases accepted
    obtain ⟨fuel, inside⟩ := readAll_anchored whole
    rcases readAll_within wrapper fuel .initial text text.length item (Nat.le_refl _) inside with
      ⟨closed, rfl⟩ | fails
    · exact .inl (own ▸ body_wrapper closed)
    · rw [fails]
      exact .inr rfl

end Highlighter.PatternText
