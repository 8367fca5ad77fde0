import Highlighter.Pattern.Reader
import Mathlib.Tactic.Common

/-!
# A parenthesis behind a pattern text

The readers of a pattern text stop at a closing parenthesis that stands behind the
text, or they fail, or a comment or an escape takes it and nothing is left.  Otherwise
they read the text alone as they read it with the parenthesis.
-/

set_option autoImplicit false

namespace Highlighter.PatternText

/-- A result with a parenthesis behind the text and one for the text alone.  Where the first is no
failure, what it leaves is `stuck`, or both read the same and leave the same of the text. -/
def Agrees {α : Type} (stuck : α → List Char → Prop) (count : Nat)
    (whole alone : Except PatternError (α × List Char)) : Prop :=
  ∀ value rest, whole = .ok (value, rest) → stuck value rest ∨
    ∃ left, rest = left ++ [')'] ∧ left.length ≤ count ∧ alone = .ok (value, left)

/-- Nothing is left. -/
def Spent {α : Type} (_ : α) (rest : List Char) : Prop := rest = []

namespace Agrees

variable {α β : Type} {stuck : α → List Char → Prop} {count : Nat}
  {whole alone : Except PatternError (α × List Char)}

theorem failed (cause : PatternError) (alone : Except PatternError (α × List Char)) :
    Agrees stuck count (.error cause) alone :=
  fun _ _ read => nomatch read

theorem same (value : α) {left : List Char} (bounded : left.length ≤ count) :
    Agrees stuck count (.ok (value, left ++ [')'])) (.ok (value, left)) := by
  intro other rest read
  cases read
  exact .inr ⟨left, rfl, bounded, rfl⟩

theorem ended (value : α) {rest : List Char} (isStuck : stuck value rest)
    (alone : Except PatternError (α × List Char)) :
    Agrees stuck count (.ok (value, rest)) alone := by
  intro other rest read
  cases read
  exact .inl isStuck

theorem nothing (value : α) (alone : Except PatternError (α × List Char)) :
    Agrees Spent count (.ok (value, [])) alone :=
  ended value rfl alone

theorem weaken {more : α → List Char → Prop} (agrees : Agrees stuck count whole alone)
    (weaker : ∀ value rest, stuck value rest → more value rest) :
    Agrees more count whole alone := by
  intro value rest read
  rcases agrees value rest read with isStuck | alike
  · exact .inl (weaker value rest isStuck)
  · exact .inr alike

theorem mono {longer : Nat} (agrees : Agrees stuck count whole alone) (order : count ≤ longer) :
    Agrees stuck longer whole alone := by
  intro value rest read
  rcases agrees value rest read with isStuck | ⟨left, same, bounded, alike⟩
  · exact .inl isStuck
  · exact .inr ⟨left, same, Nat.le_trans bounded order, alike⟩

/-- What is done with the results agrees if it does at each of them. -/
theorem bind {more : β → List Char → Prop} {longer : Nat}
    {next nextAlone : α × List Char → Except PatternError (β × List Char)}
    (agrees : Agrees stuck count whole alone)
    (stops : ∀ value rest, stuck value rest → ∀ alone, Agrees more longer (next (value, rest)) alone)
    (goesOn : ∀ value left, left.length ≤ count →
      Agrees more longer (next (value, left ++ [')'])) (nextAlone (value, left))) :
    Agrees more longer (whole >>= next) (alone >>= nextAlone) := by
  cases read : whole with
  | error cause => exact failed cause _
  | ok result =>
    obtain ⟨value, rest⟩ := result
    rcases agrees value rest read with isStuck | ⟨left, rfl, bounded, rfl⟩
    · exact stops value rest isStuck _
    · exact goesOn value left bounded

theorem map {more : β → List Char → Prop} (agrees : Agrees stuck count whole alone) (make : α → β)
    (stops : ∀ value rest, stuck value rest → more (make value) rest) :
    Agrees more count (whole >>= fun (value, rest) => return (make value, rest))
      (alone >>= fun (value, rest) => return (make value, rest)) :=
  agrees.bind (fun value rest isStuck => .ended (make value) (stops value rest isStuck))
    fun value _ bounded => .same (make value) bounded

/-- What is done before a reader takes nothing is done alike. -/
theorem guarded {γ : Type} (first : Except PatternError γ) (make : γ → α) {left : List Char}
    (bounded : left.length ≤ count) :
    Agrees stuck count (first >>= fun value => .ok (make value, left ++ [')']))
      (first >>= fun value => .ok (make value, left)) := by
  cases first with
  | error cause => exact failed cause _
  | ok value => exact same (make value) bounded

theorem guarded_nothing {γ : Type} (first : Except PatternError γ) (make : γ → α)
    (alone : Except PatternError (α × List Char)) :
    Agrees Spent count (first >>= fun value => .ok (make value, [])) alone := by
  cases first with
  | error cause => exact failed cause _
  | ok value => exact nothing (make value) alone

end Agrees

/-! ## Readers of several things -/

theorem map_bind {ε α β γ : Type} (first : Except ε α) (next : α → Except ε β) (after : β → γ) :
    (first >>= next).map after = first >>= fun value => (next value).map after := by
  cases first <;> rfl

/-- The text that is left apart from what has been read. -/
def regroup {α β : Type} (result : α × β × List Char) : (α × β) × List Char :=
  ((result.1, result.2.1), result.2.2)

theorem eq_of_map_regroup {α β : Type} {result : Except PatternError (α × β × List Char)}
    {first : α} {second : β} {rest : List Char}
    (same : result.map regroup = .ok ((first, second), rest)) :
    result = .ok (first, second, rest) := by
  cases result with
  | error cause => cases same
  | ok found =>
    cases same
    rfl

theorem Agrees.bind_regroup {α β γ : Type} {stuck : α × β → List Char → Prop}
    {more : γ → List Char → Prop} {count longer : Nat}
    {whole alone : Except PatternError (α × β × List Char)}
    {next nextAlone : α × β × List Char → Except PatternError (γ × List Char)}
    (agrees : Agrees stuck count (whole.map regroup) (alone.map regroup))
    (stops : ∀ first second rest, stuck (first, second) rest →
      ∀ alone, Agrees more longer (next (first, second, rest)) alone)
    (goesOn : ∀ first second left, left.length ≤ count →
      Agrees more longer (next (first, second, left ++ [')'])) (nextAlone (first, second, left))) :
    Agrees more longer (whole >>= next) (alone >>= nextAlone) := by
  cases read : whole with
  | error cause => exact .failed cause _
  | ok found =>
    obtain ⟨first, second, rest⟩ := found
    rw [read] at agrees
    rcases agrees (first, second) rest rfl with isStuck | ⟨left, rfl, bounded, alike⟩
    · exact stops first second rest isStuck _
    · rw [eq_of_map_regroup alike]
      exact goesOn first second left bounded

/-- A text with the parenthesis behind begins as the text alone, if not with the parenthesis. -/
theorem exists_of_append_paren {c : Char} {text rest : List Char}
    (same : text ++ [')'] = c :: rest) (noParen : c ≠ ')') :
    ∃ left, text = c :: left ∧ rest = left ++ [')'] := by
  cases text with
  | nil => exact absurd (List.cons.inj same).1.symm noParen
  | cons d left =>
    obtain ⟨rfl, rfl⟩ := List.cons.inj same
    exact ⟨left, rfl, rfl⟩

/-! ## White space -/

theorem afterSpace_paren (text : List Char) : ∀ inComment,
    afterSpace inComment (text ++ [')']) = afterSpace inComment text ++ [')'] ∨
      afterSpace inComment (text ++ [')']) = [] ∧ afterSpace inComment text = [] := by
  induction text with
  | nil =>
    intro inComment
    cases inComment with
    | true => exact .inr ⟨rfl, rfl⟩
    | false => exact .inl (by decide)
  | cons c text inductionHypothesis =>
    intro inComment
    rw [List.cons_append, afterSpace, afterSpace]
    split
    · exact inductionHypothesis _
    · split
      · exact inductionHypothesis _
      · split
        · exact inductionHypothesis _
        · exact .inl rfl

theorem afterSpace_length (text : List Char) : ∀ inComment,
    (afterSpace inComment text).length ≤ text.length := by
  induction text with
  | nil => exact fun _ => Nat.le_refl _
  | cons c text inductionHypothesis =>
    intro inComment
    have shorter : ∀ inComment, (afterSpace inComment text).length ≤ (c :: text).length :=
      fun inComment => Nat.le_succ_of_le (inductionHypothesis inComment)
    rw [afterSpace]
    split
    · exact shorter _
    · split
      · exact shorter _
      · split
        · exact shorter _
        · exact Nat.le_refl _

theorem skip_length (flags : Flags) (text : List Char) :
    (skip flags text).length ≤ text.length := by
  unfold skip
  split
  · exact afterSpace_length text false
  · exact Nat.le_refl _

theorem skip_paren (flags : Flags) (text : List Char) :
    skip flags (text ++ [')']) = skip flags text ++ [')'] ∨
      skip flags (text ++ [')']) = [] ∧ skip flags text = [] := by
  unfold skip
  split
  · exact afterSpace_paren text false
  · exact .inl rfl

theorem skip_nil (flags : Flags) : skip flags [] = [] := by
  unfold skip
  split <;> rfl

theorem skip_one (flags : Flags) : skip flags [')'] = [')'] := by
  unfold skip
  split <;> decide

/-- What there is to read behind white space. -/
theorem skip_cases (flags : Flags) (text : List Char) :
    (∃ c rest, skip flags text = c :: rest ∧ skip flags (text ++ [')']) = c :: (rest ++ [')']) ∧
      rest.length < text.length) ∨
    (skip flags text = [] ∧ skip flags (text ++ [')']) = [')']) ∨
    (skip flags text = [] ∧ skip flags (text ++ [')']) = []) := by
  have bounded := skip_length flags text
  rcases skip_paren flags text with same | ⟨whole, alone⟩
  · rw [same]
    cases left : skip flags text with
    | nil => exact .inr (.inl ⟨rfl, rfl⟩)
    | cons c rest =>
      rw [left, List.length_cons] at bounded
      exact .inl ⟨c, rest, rfl, rfl, bounded⟩
  · exact .inr (.inr ⟨alone, whole⟩)

theorem skip_agrees {α : Type} {count : Nat} {text : List Char} (value : α) (flags : Flags)
    (bounded : text.length ≤ count) :
    Agrees Spent count (.ok (value, skip flags (text ++ [')'])))
      (.ok (value, skip flags text)) := by
  rcases skip_paren flags text with same | ⟨whole, -⟩
  · rw [same]
    exact .same value (Nat.le_trans (skip_length flags text) bounded)
  · rw [whole]
    exact .nothing value _

end Highlighter.PatternText
